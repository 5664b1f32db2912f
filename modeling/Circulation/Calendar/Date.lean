/-
**Calendar dates of the proleptic Gregorian calendar.**

A date carries the proof that its day exists, so nothing downstream checks again.

Main definitions:

* `isLeapYear`, `daysIn` — the lengths of the months;
* `Date`, `Date.ofYMD?` — dates and how they are made;
* `Date.iso` — a date as `YYYY-MM-DD`, with a sign for years outside four digits;
* `civil` — year, month and day of a day number.
-/

set_option relaxedAutoImplicit false
set_option autoImplicit false

namespace Circulation

namespace Calendar

/-! ### Months -/

/-- Every fourth year is a leap year, centuries only every fourth time. -/
def isLeapYear (year : Int) : Bool :=
  year % 4 == 0 && (year % 100 != 0 || year % 400 == 0)

/-- The number of days of a month; no month has any day if it is not from 1 to 12. -/
def daysIn (year : Int) (month : Nat) : Nat :=
  if month = 2 then if isLeapYear year then 29 else 28
  else if month = 4 ∨ month = 6 ∨ month = 9 ∨ month = 11 then 30
  else if 1 ≤ month ∧ month ≤ 12 then 31
  else 0

end Calendar

/-! ### Dates -/

/-- A day of the calendar. -/
structure Date where
  year : Int
  month : Nat
  day : Nat
  exists_day : 1 ≤ day ∧ day ≤ Calendar.daysIn year month
deriving DecidableEq

namespace Date

open Calendar

/-- The date with the given numbers, if there is such a day. -/
def ofYMD? (year : Int) (month day : Nat) : Option Date :=
  if h : 1 ≤ day ∧ day ≤ daysIn year month then some ⟨year, month, day, h⟩ else none

theorem ofYMD?_self (d : Date) : ofYMD? d.year d.month d.day = some d := by
  simp [ofYMD?, d.exists_day]

/-- The month of a date is from 1 to 12. -/
theorem month_bounds (d : Date) : 1 ≤ d.month ∧ d.month ≤ 12 := by
  have h := d.exists_day
  have hpos : 0 < daysIn d.year d.month := by omega
  unfold daysIn at hpos
  split at hpos
  · omega
  · split at hpos
    · omega
    · split at hpos <;> omega

end Date

/-! ### Writing dates -/

namespace Calendar

/-- A number with zeros in front up to a width. -/
def padded (width n : Nat) : List Char :=
  let cs := Nat.toDigits 10 n
  List.replicate (width - cs.length) '0' ++ cs

/-- A year in four digits; outside that range with its sign. -/
def yearChars (year : Int) : List Char :=
  if 0 ≤ year ∧ year ≤ 9999 then padded 4 year.natAbs
  else (if year < 0 then '-' else '+') :: padded 4 year.natAbs

/-- Year, month and day with dashes between them. -/
def dateChars (year : Int) (month day : Nat) : List Char :=
  yearChars year ++ '-' :: padded 2 month ++ '-' :: padded 2 day

end Calendar

/-- The characters of `YYYY-MM-DD`. -/
def Date.isoChars (d : Date) : List Char := Calendar.dateChars d.year d.month d.day

/-- A date as `YYYY-MM-DD`. -/
def Date.iso (d : Date) : String := String.ofList d.isoChars

/-! ### Day numbers -/

namespace Calendar

/-- Year, month and day of the day `n` days after 2000-01-01.  Years are counted from March, so the
leap day is the last one, and eras of four hundred years all have the same days. -/
def civil (n : Int) : Int × Nat × Nat :=
  let z := n + 730425
  let era := z / 146097
  let dayOfEra := (z % 146097).toNat
  let yearOfEra :=
    (dayOfEra - dayOfEra / 1460 + dayOfEra / 36524 - dayOfEra / 146096) / 365
  let dayOfYear := dayOfEra - (365 * yearOfEra + yearOfEra / 4 - yearOfEra / 100)
  let monthFromMarch := (5 * dayOfYear + 2) / 153
  let day := dayOfYear - (153 * monthFromMarch + 2) / 5 + 1
  let month := if monthFromMarch < 10 then monthFromMarch + 3 else monthFromMarch - 9
  let year := Int.ofNat yearOfEra + era * 400
  (if month ≤ 2 then year + 1 else year, month, day)

end Calendar

end Circulation
