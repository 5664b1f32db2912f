/-
**Which texts spell which day.**

A day is spelled by ASCII digits, either as an ISO literal or in the export form.  The two forms are
described here by the digits and letters that stand in them, and reading a token is found to give
exactly the day that it spells, with one exception: the shape of the export form takes decimal
digits of any script for its year, and a year with such digits is read as 2000.

Main definitions:

* `Calendar.Numeral`, `Calendar.NamesMonth` — what stands for a number, and for a month;
* `Calendar.Spells` — the texts that spell a day;
* `Calendar.HasForeignYear` — the texts in the export form whose year has other digits.

Main results:

* `Calendar.isoParts?_eq_some_iff`, `Calendar.exportParts?_eq_some_iff` — the parts of both shapes;
* `Calendar.readTrimmed_eq_ok_iff` — **what is read from a token**;
* `readDate_spelled` — **reading and normalizing, in terms of what is spelled**.
-/

import Circulation.Failure
import Circulation.Proofs.Calendar.Literal

set_option relaxedAutoImplicit false
set_option autoImplicit false

namespace Circulation

open Text

/-! ### Shapes and numbers -/

/-- A text has two shapes one behind the other if it is made of two parts that have them. -/
theorem Text.Shape.fits_append_iff {s t : Shape} {cs : List Char} :
    Shape.fits (s ++ t) cs = true ↔ ∃ a b, cs = a ++ b ∧ s.fits a = true ∧ t.fits b = true := by
  constructor
  · intro h
    induction s generalizing cs with
    | nil => exact ⟨[], cs, rfl, rfl, h⟩
    | cons p s ih =>
        cases cs with
        | nil => cases h
        | cons c cs =>
            rw [List.cons_append, fits_cons_cons, Bool.and_eq_true] at h
            obtain ⟨a, b, rfl, ha, hb⟩ := ih h.2
            refine ⟨c :: a, b, rfl, ?_, hb⟩
            rw [fits_cons_cons, h.1, ha]
            rfl
  · rintro ⟨a, b, rfl, ha, hb⟩
    rw [Calendar.fits_append ha]
    exact hb

/-- A character with a class in front. -/
theorem Text.Shape.fits_cons_iff {p : Char → Bool} {s : Shape} {cs : List Char} :
    Shape.fits (p :: s) cs = true ↔ ∃ c rest, cs = c :: rest ∧ p c = true ∧ s.fits rest = true := by
  constructor
  · intro h
    cases cs with
    | nil => cases h
    | cons c rest => exact ⟨c, rest, rfl, by simpa using h⟩
  · rintro ⟨c, rest, rfl, hc, hrest⟩
    rw [fits_cons_cons, hc, hrest]
    rfl

/-- Every character of a text is in one of the classes of its shape. -/
theorem Text.Shape.exists_of_fits {s : Shape} {cs : List Char} (h : s.fits cs = true) {c : Char}
    (hc : c ∈ cs) : ∃ p ∈ s, p c = true := by
  induction cs generalizing s with
  | nil => cases hc
  | cons d cs ih =>
      cases s with
      | nil => cases h
      | cons p s =>
          rw [fits_cons_cons, Bool.and_eq_true] at h
          rcases List.mem_cons.1 hc with rfl | hc
          · exact ⟨p, List.mem_cons_self, h.1⟩
          · obtain ⟨q, hq, hqc⟩ := ih h.2 hc
            exact ⟨q, List.mem_cons_of_mem p hq, hqc⟩

/-- A text of one class throughout. -/
theorem Text.Shape.fits_replicate_iff {p : Char → Bool} {n : Nat} {cs : List Char} :
    Shape.fits (List.replicate n p) cs = true ↔ cs.length = n ∧ ∀ c ∈ cs, p c = true := by
  induction n generalizing cs with
  | zero => cases cs <;> simp
  | succ n ih =>
      cases cs with
      | nil => simp [List.replicate_succ]
      | cons c cs => simp [List.replicate_succ, ih, and_left_comm]

/-- A number is read from one digit or more. -/
theorem Text.readNat?_eq_some_iff {cs : List Char} {n : Nat} :
    readNat? cs = some n ↔
      cs ≠ [] ∧ (∀ c ∈ cs, c.isDigit = true) ∧ Nat.ofDigitChars 10 cs 0 = n := by
  by_cases hnil : cs = []
  · simp [hnil]
  · simp [readNat?, hnil]

theorem Date.ofYMD?_eq_some_iff {year : Int} {month day : Nat} {d : Date} :
    Date.ofYMD? year month day = some d ↔ d.year = year ∧ d.month = month ∧ d.day = day := by
  constructor
  · intro h
    unfold Date.ofYMD? at h
    split at h
    · obtain rfl := Option.some.inj h
      exact ⟨rfl, rfl, rfl⟩
    · cases h
  · rintro ⟨rfl, rfl, rfl⟩
    exact d.ofYMD?_self

namespace Calendar

/-! ### What is spelled -/

/-- ASCII digits that fill so many places and denote a number. -/
structure Numeral (width n : Nat) (cs : List Char) : Prop where
  length : cs.length = width
  digits : ∀ c ∈ cs, c.isDigit = true
  value : Nat.ofDigitChars 10 cs 0 = n

/-- Letters that name a month, in any case. -/
def NamesMonth (month : Nat) (letters : List Char) : Prop :=
  monthNames[month - 1]? = some (String.ofList (letters.map Char.toUpper))

/-- A text in the export form: a day in one digit or two, the name of a month, and a year. -/
inductive Exported (month day : Nat) (year : List Char) : List Char → Prop
  | intro {width : Nat} {digits letters : List Char} (hwidth : width = 1 ∨ width = 2)
      (hday : Numeral width day digits) (hmonth : NamesMonth month letters) :
      Exported month day year (digits ++ '-' :: letters ++ '-' :: year)

/-- The texts that spell a day. -/
inductive Spells (d : Date) : List Char → Prop
  | iso {y : Nat} {year month day : List Char} (hyear : Numeral 4 y year)
      (hmonth : Numeral 2 d.month month) (hday : Numeral 2 d.day day) (hy : d.year = y) :
      Spells d (year ++ '-' :: month ++ '-' :: day)
  | exported {y : Nat} {year cs : List Char} (hcs : Exported d.month d.day year cs)
      (hyear : Numeral 2 y year) (hy : d.year = 2000 + y) : Spells d cs

/-- A text in the export form whose year has decimal digits that are not all of ASCII, with a day of
the year 2000. -/
def HasForeignYear (d : Date) (cs : List Char) : Prop :=
  ∃ year, Exported d.month d.day year cs ∧ year.length = 2 ∧
    (∀ c ∈ year, isDecimalDigit c = true) ∧ (∃ c ∈ year, c.isDigit = false) ∧ d.year = 2000

theorem numeral_iff {width n : Nat} {cs : List Char} (hwidth : 0 < width) :
    Numeral width n cs ↔ cs.length = width ∧ readNat? cs = some n := by
  constructor
  · rintro ⟨hlength, hdigits, hvalue⟩
    have hne : cs ≠ [] := List.ne_nil_of_length_pos (by omega)
    exact ⟨hlength, readNat?_eq_some_iff.2 ⟨hne, hdigits, hvalue⟩⟩
  · rintro ⟨hlength, hread⟩
    obtain ⟨-, hdigits, hvalue⟩ := readNat?_eq_some_iff.1 hread
    exact ⟨hlength, hdigits, hvalue⟩

/-- A numeral has the shape of digits. -/
theorem Numeral.fits {width n : Nat} {cs : List Char} (h : Numeral width n cs) :
    (Shape.digits width).fits cs = true :=
  Shape.fits_replicate_iff.2 ⟨h.length, fun c hc => isDecimalDigit_of_isDigit (h.digits c hc)⟩

/-! ### Months -/

/-- The letters, by their codes. -/
theorem isAlpha_iff {c : Char} :
    c.isAlpha = true ↔ (65 ≤ c.val ∧ c.val ≤ 90) ∨ (97 ≤ c.val ∧ c.val ≤ 122) := by
  change (decide (65 ≤ c.val ∧ c.val ≤ 90) ||
    decide (97 ≤ c.val) && decide (c.val ≤ 122)) = true ↔ _
  simp only [Bool.or_eq_true, Bool.and_eq_true, decide_eq_true_eq]

theorem isAlpha_of_isAlpha_toUpper {c : Char} (h : c.toUpper.isAlpha = true) :
    c.isAlpha = true := by
  by_cases hlower : 97 ≤ c.val ∧ c.val ≤ 122
  · exact isAlpha_iff.2 (Or.inr hlower)
  · have hself : c.toUpper = c := dif_neg hlower
    rwa [hself] at h

/-- The letters of the name of a month have their shape. -/
theorem NamesMonth.fits {month : Nat} {letters : List Char} (h : NamesMonth month letters) :
    Shape.fits (List.replicate 3 Char.isAlpha) letters = true := by
  have hall : ∀ name ∈ monthNames,
      name.toList.length = 3 ∧ name.toList.all Char.isAlpha = true := by decide
  obtain ⟨hlength, halpha⟩ := hall _ (List.mem_of_getElem? h)
  rw [String.toList_ofList] at hlength halpha
  refine Shape.fits_replicate_iff.2 ⟨by simpa using hlength, fun c hc => ?_⟩
  exact isAlpha_of_isAlpha_toUpper (List.all_eq_true.1 halpha _ (List.mem_map_of_mem hc))

/-- The number of a month is found by its name. -/
theorem monthNumber?_eq_some_iff {letters : List Char} {month : Nat} :
    monthNumber? letters = some month ↔ 1 ≤ month ∧ NamesMonth month letters := by
  have hnodup : monthNames.Nodup := by decide
  unfold monthNumber? NamesMonth List.idxOf?
  rw [Option.map_eq_some_iff]
  constructor
  · rintro ⟨i, hi, rfl⟩
    obtain ⟨hlt, hname, -⟩ := List.findIdx?_eq_some_iff_getElem.1 hi
    refine ⟨Nat.succ_pos i, ?_⟩
    rw [Nat.add_sub_cancel, List.getElem?_eq_getElem hlt, beq_iff_eq.1 hname]
  · rintro ⟨hone, hname⟩
    obtain ⟨hlt, hget⟩ := List.getElem?_eq_some_iff.1 hname
    refine ⟨month - 1, List.findIdx?_eq_some_iff_getElem.2 ⟨hlt, by simp [hget], ?_⟩, by omega⟩
    -- no month before it has the same name
    intro j hj hsame
    have hj' : j < monthNames.length := by omega
    have heq : monthNames[j] = monthNames[month - 1] := by rw [hget, beq_iff_eq.1 hsame]
    exact List.pairwise_iff_getElem.1 hnodup j (month - 1) hj' hlt hj heq

/-! ### The parts of a token -/

/-- **The parts of an ISO literal**: four, two and two decimal digits. -/
theorem isoParts?_eq_some_iff {cs year month day : List Char} :
    isoParts? cs = some (year, month, day) ↔
      cs = year ++ '-' :: month ++ '-' :: day ∧ (Shape.digits 4).fits year = true ∧
        (Shape.digits 2).fits month = true ∧ (Shape.digits 2).fits day = true := by
  have hlength : ∀ {n : Nat} {ds : List Char}, (Shape.digits n).fits ds = true → ds.length = n :=
    fun h => (Shape.fits_replicate_iff.1 h).1
  unfold isoParts?
  constructor
  · intro h
    split at h
    · next hfits =>
        rw [Shape.isoDate, List.append_assoc] at hfits
        obtain ⟨year', rest, rfl, hyear, hrest⟩ := Shape.fits_append_iff.1 hfits
        obtain ⟨c, rest, rfl, hc, hrest⟩ := Shape.fits_cons_iff.1 hrest
        obtain ⟨month', rest, rfl, hmonth, hrest⟩ := Shape.fits_append_iff.1 hrest
        obtain ⟨c', day', rfl, hc', hday⟩ := Shape.fits_cons_iff.1 hrest
        obtain rfl : c = '-' := beq_iff_eq.1 hc
        obtain rfl : c' = '-' := beq_iff_eq.1 hc'
        have hcs : year' ++ '-' :: (month' ++ '-' :: day') =
            year' ++ '-' :: month' ++ '-' :: day' := by simp
        obtain ⟨h₁, h₂, h₃⟩ := parts_of_dashes (c := day') (hlength hyear) (hlength hmonth)
        rw [hcs, h₁, h₂, h₃] at h
        obtain ⟨rfl, rfl, rfl⟩ := by simpa using h
        exact ⟨hcs, hyear, hmonth, hday⟩
    · cases h
  · rintro ⟨rfl, hyear, hmonth, hday⟩
    have hfits : Shape.isoDate.fits (year ++ '-' :: month ++ '-' :: day) = true := by
      rw [Shape.isoDate, List.append_assoc, List.append_assoc, fits_append hyear]
      rw [List.cons_append, List.cons_append, Shape.fits_cons_cons, fits_append hmonth,
        Shape.fits_cons_cons, hday]
      rfl
    obtain ⟨h₁, h₂, h₃⟩ := parts_of_dashes (c := day) (hlength hyear) (hlength hmonth)
    rw [if_pos hfits, h₁, h₂, h₃]

/-- The parts of a text in the export form, by their lengths. -/
theorem exportParts_of_dashes {a b c : List Char} (hb : b.length = 3) :
    let cs := a ++ '-' :: b ++ '-' :: c
    cs.take a.length = a ∧ (cs.drop (a.length + 1)).take 3 = b ∧ cs.drop (a.length + 5) = c := by
  intro cs
  have hfirst : cs = a ++ ('-' :: b ++ '-' :: c) := List.append_assoc ..
  have hsecond : cs = (a ++ ['-']) ++ (b ++ '-' :: c) := by simp [cs]
  have hthird : cs = (a ++ '-' :: b ++ ['-']) ++ c := by simp [cs]
  refine ⟨?_, ?_, ?_⟩
  · rw [hfirst]
    exact List.take_left' rfl
  · rw [hsecond, List.drop_left' (by simp)]
    exact List.take_left' hb
  · rw [hthird]
    exact List.drop_left' (by simp [hb])

/-- The shape of the export form, for a day of so many digits. -/
theorem fits_exportShape_iff {width : Nat} {cs : List Char} :
    (Shape.digits width ++ exportTail).fits cs = true ↔
      ∃ day letters year, cs = day ++ '-' :: letters ++ '-' :: year ∧
        (Shape.digits width).fits day = true ∧
          Shape.fits (List.replicate 3 Char.isAlpha) letters = true ∧
            (Shape.digits 2).fits year = true := by
  constructor
  · intro h
    obtain ⟨day, rest, rfl, hday, hrest⟩ := Shape.fits_append_iff.1 h
    rw [exportTail, List.cons_append] at hrest
    obtain ⟨c, rest, rfl, hc, hrest⟩ := Shape.fits_cons_iff.1 hrest
    obtain ⟨letters, rest, rfl, hletters, hrest⟩ := Shape.fits_append_iff.1 hrest
    obtain ⟨c', year, rfl, hc', hyear⟩ := Shape.fits_cons_iff.1 hrest
    obtain rfl : c = '-' := beq_iff_eq.1 hc
    obtain rfl : c' = '-' := beq_iff_eq.1 hc'
    exact ⟨day, letters, year, by simp, hday, hletters, hyear⟩
  · rintro ⟨day, letters, year, rfl, hday, hletters, hyear⟩
    rw [List.append_assoc, fits_append hday, exportTail, List.cons_append, List.cons_append,
      Shape.fits_cons_cons, fits_append hletters, Shape.fits_cons_cons, hyear]
    rfl

/-- **The parts of a text in the export form.** -/
theorem exportParts?_eq_some_iff {cs day letters year : List Char} :
    exportParts? cs = some (day, letters, year) ↔
      cs = day ++ '-' :: letters ++ '-' :: year ∧
        (∃ width, (width = 1 ∨ width = 2) ∧ (Shape.digits width).fits day = true) ∧
          Shape.fits (List.replicate 3 Char.isAlpha) letters = true ∧
            (Shape.digits 2).fits year = true := by
  -- what is cut off by lengths is what the shape has found
  have hparts : ∀ {width : Nat} {day letters year : List Char},
      (Shape.digits width).fits day = true →
      Shape.fits (List.replicate 3 Char.isAlpha) letters = true →
      let cs := day ++ '-' :: letters ++ '-' :: year
      (cs.take width, (cs.drop (width + 1)).take 3, cs.drop (width + 5)) =
        (day, letters, year) := by
    intro width day letters year hday hletters cs
    obtain rfl := (Shape.fits_replicate_iff.1 hday).1
    obtain ⟨h₁, h₂, h₃⟩ := exportParts_of_dashes (a := day) (c := year)
      (Shape.fits_replicate_iff.1 hletters).1
    rw [h₁, h₂, h₃]
  unfold exportParts?
  extract_lets parts
  constructor
  · intro h
    split at h
    · next hfits =>
        obtain ⟨day', letters', year', rfl, hday, hletters, hyear⟩ := fits_exportShape_iff.1 hfits
        obtain ⟨rfl, rfl, rfl⟩ := by
          simpa using (hparts hday hletters).symm.trans (Option.some.inj h)
        exact ⟨rfl, ⟨1, Or.inl rfl, hday⟩, hletters, hyear⟩
    · split at h
      · next hfits =>
          obtain ⟨day', letters', year', rfl, hday, hletters, hyear⟩ := fits_exportShape_iff.1 hfits
          obtain ⟨rfl, rfl, rfl⟩ := by
            simpa using (hparts hday hletters).symm.trans (Option.some.inj h)
          exact ⟨rfl, ⟨2, Or.inr rfl, hday⟩, hletters, hyear⟩
      · cases h
  · rintro ⟨rfl, ⟨width, hwidth, hday⟩, hletters, hyear⟩
    have hfits := fits_exportShape_iff.2 ⟨day, letters, year, rfl, hday, hletters, hyear⟩
    rcases hwidth with rfl | rfl
    · rw [if_pos hfits]
      exact congrArg some (hparts hday hletters)
    · -- a text of this length has not the shape with one digit less
      have hother : ¬(Shape.digits 1 ++ exportTail).fits
          (day ++ '-' :: letters ++ '-' :: year) = true := by
        intro h
        have h₁ := Shape.length_of_fits h
        have h₂ := Shape.length_of_fits hfits
        simp [Shape.digits] at h₁ h₂
        omega
      rw [if_neg hother, if_pos hfits]
      exact congrArg some (hparts hday hletters)

/-- A dash among the first four characters comes too early for an ISO literal. -/
theorem isoParts?_of_dash {day rest : List Char} (hday : day.length < 4) :
    isoParts? (day ++ '-' :: rest) = none := by
  rw [Option.eq_none_iff_forall_ne_some]
  rintro ⟨year, month, day'⟩ h
  obtain ⟨heq, hyear, -, -⟩ := isoParts?_eq_some_iff.1 h
  obtain ⟨hlength, hdigits⟩ := Shape.fits_replicate_iff.1 hyear
  have hdash : '-' ∈ year := by
    have hget : (day ++ '-' :: rest)[day.length]? = some '-' := by simp
    rw [heq, List.append_assoc, List.getElem?_append_left (by omega)] at hget
    exact List.mem_of_getElem? hget
  exact absurd (hdigits '-' hdash) (by decide)

/-! ### Reading -/

/-- The digits of an ISO literal denote a date. -/
theorem isoDate?_eq_some_iff {year month day : List Char} {d : Date} :
    isoDate? year month day = some d ↔
      ∃ y : Nat, readNat? year = some y ∧ readNat? month = some d.month ∧
        readNat? day = some d.day ∧ d.year = y := by
  unfold isoDate?
  simp only [Option.bind_eq_bind, Option.bind_eq_some_iff, Date.ofYMD?_eq_some_iff]
  constructor
  · rintro ⟨y, hy, m, hm, n, hn, hyear, rfl, rfl⟩
    exact ⟨y, hy, hm, hn, hyear⟩
  · rintro ⟨y, hy, hm, hn, hyear⟩
    exact ⟨y, hy, _, hm, _, hn, hyear, rfl, rfl⟩

/-- The year that is read off two decimal digits: their number if they are of ASCII, else 0. -/
theorem readNat?_two {year : List Char} (hyear : (Shape.digits 2).fits year = true) :
    (∃ y, Numeral 2 y year ∧ (readNat? year).getD 0 = y) ∨
      (∃ c ∈ year, c.isDigit = false) ∧ (readNat? year).getD 0 = 0 := by
  have hlength := (Shape.fits_replicate_iff.1 hyear).1
  cases hread : readNat? year with
  | some y => exact Or.inl ⟨y, (numeral_iff (by decide)).2 ⟨hlength, hread⟩, rfl⟩
  | none =>
      refine Or.inr ⟨?_, rfl⟩
      by_cases hall : ∀ c ∈ year, c.isDigit = true
      · have hne : year ≠ [] := List.ne_nil_of_length_pos (by omega)
        rw [readNat?_eq_some_iff.2 ⟨hne, hall, rfl⟩] at hread
        cases hread
      · simpa using hall

/-- What a text in the export form is read as. -/
theorem readTrimmed_of_exported {month day : Nat} {year cs : List Char} {d : Date}
    (hcs : Exported month day year cs) (hyear : (Shape.digits 2).fits year = true)
    (hmonth : d.month = month) (hday : d.day = day)
    (hy : d.year = 2000 + ((readNat? year).getD 0 : Nat)) : readTrimmed cs = .ok d := by
  obtain @⟨width, digits, letters, hwidth, hdigits, hletters⟩ := hcs
  have hone := d.month_bounds.1
  have hpos : 0 < width := by omega
  have hiso : isoParts? (digits ++ '-' :: letters ++ '-' :: year) = none := by
    rw [List.append_assoc]
    refine isoParts?_of_dash ?_
    rw [hdigits.length]
    omega
  have hparts : exportParts? (digits ++ '-' :: letters ++ '-' :: year) =
      some (digits, letters, year) :=
    exportParts?_eq_some_iff.2 ⟨rfl, ⟨width, hwidth, hdigits.fits⟩, hletters.fits, hyear⟩
  have hnumber : monthNumber? letters = some month :=
    monthNumber?_eq_some_iff.2 ⟨hmonth ▸ hone, hletters⟩
  have hread : readNat? digits = some day := ((numeral_iff hpos).1 hdigits).2
  have hdate : Date.ofYMD? (2000 + Int.ofNat ((readNat? year).getD 0)) month day = some d :=
    Date.ofYMD?_eq_some_iff.2 ⟨hy, hmonth, hday⟩
  simp only [readTrimmed, hiso, hparts, hnumber, hread, Option.getD_some, hdate]

/-- **What is read from a token without blanks around it**: the day that it spells, or a day of the
year 2000 if the digits of its year are not of ASCII. -/
theorem readTrimmed_eq_ok_iff {cs : List Char} {d : Date} :
    readTrimmed cs = .ok d ↔ Spells d cs ∨ HasForeignYear d cs := by
  constructor
  · intro h
    unfold readTrimmed at h
    extract_lets token at h
    split at h
    · next year month day hparts =>
        obtain ⟨rfl, hyear, hmonth, hday⟩ := isoParts?_eq_some_iff.1 hparts
        split at h
        · next d' hdate =>
            obtain rfl := Except.ok.inj h
            obtain ⟨y, hy, hm, hn, hvalue⟩ := isoDate?_eq_some_iff.1 hdate
            have hnumeral : ∀ {width n : Nat} {ds : List Char}, 0 < width →
                (Shape.digits width).fits ds = true → readNat? ds = some n → Numeral width n ds :=
              fun hwidth hfits hread =>
                (numeral_iff hwidth).2 ⟨(Shape.fits_replicate_iff.1 hfits).1, hread⟩
            exact Or.inl (.iso (hnumeral (by decide) hyear hy) (hnumeral (by decide) hmonth hm)
              (hnumeral (by decide) hday hn) hvalue)
        · cases h
    · split at h
      · cases h
      · next day letters year hparts =>
          obtain ⟨rfl, ⟨width, hwidth, hday⟩, hletters, hyear⟩ := exportParts?_eq_some_iff.1 hparts
          split at h
          · cases h
          · next month hmonth =>
              extract_lets y at h
              split at h
              · next d' hdate =>
                  obtain rfl := Except.ok.inj h
                  obtain ⟨hy, rfl, hn⟩ := Date.ofYMD?_eq_some_iff.1 hdate
                  -- a day that is not read is 0, and there is no such day
                  have hread : readNat? day = some d'.day := by
                    have hone := d'.exists_day.1
                    cases hread : readNat? day with
                    | none =>
                        rw [hread, Option.getD_none] at hn
                        omega
                    | some n => rw [hn, hread, Option.getD_some]
                  have hcs : Exported d'.month d'.day year
                      (day ++ '-' :: letters ++ '-' :: year) := by
                    refine .intro hwidth ((numeral_iff (by omega)).2 ⟨?_, hread⟩)
                      (monthNumber?_eq_some_iff.1 hmonth).2
                    exact (Shape.fits_replicate_iff.1 hday).1
                  obtain ⟨hlength, hdecimal⟩ := Shape.fits_replicate_iff.1 hyear
                  rcases readNat?_two hyear with ⟨n, hnumeral, hvalue⟩ | ⟨hforeign, hvalue⟩
                  · refine Or.inl (.exported hcs hnumeral ?_)
                    rw [hy, ← hvalue]
                    rfl
                  · refine Or.inr ⟨year, hcs, hlength, hdecimal, hforeign, ?_⟩
                    rw [hy]
                    simp only [y, hvalue]
                    rfl
              · cases h
  · rintro (hspells | ⟨year, hcs, hlength, hdecimal, ⟨c, hc, hforeign⟩, hy⟩)
    · cases hspells with
      | iso hyear hmonth hday hy =>
          have hread : ∀ {width n : Nat} {ds : List Char}, 0 < width → Numeral width n ds →
              readNat? ds = some n := fun hwidth h => ((numeral_iff hwidth).1 h).2
          have hparts := isoParts?_eq_some_iff.2 ⟨rfl, hyear.fits, hmonth.fits, hday.fits⟩
          have hdate := isoDate?_eq_some_iff.2 ⟨_, hread (by decide) hyear,
            hread (by decide) hmonth, hread (by decide) hday, hy⟩
          simp only [readTrimmed, hparts, hdate]
      | @exported y year _ hcs hyear hy =>
          refine readTrimmed_of_exported hcs hyear.fits rfl rfl ?_
          rw [((numeral_iff (by decide)).1 hyear).2]
          exact hy
    · have hread : readNat? year = none := by
        rw [Option.eq_none_iff_forall_ne_some]
        intro n hn
        rw [(readNat?_eq_some_iff.1 hn).2.1 c hc] at hforeign
        cases hforeign
      refine readTrimmed_of_exported hcs (Shape.fits_replicate_iff.2 ⟨hlength, hdecimal⟩) rfl rfl ?_
      rw [hread]
      exact hy

/-! ### Writing -/

/-- A number with zeros in front is a numeral if it fits its places. -/
theorem numeral_padded {width n : Nat} (hwidth : 0 < width) (hn : n < 10 ^ width) :
    Numeral width n (padded width n) :=
  (numeral_iff hwidth).2 ⟨length_padded hwidth hn, readNat?_padded width n⟩

/-- What is written for a date of a year in four digits spells it. -/
theorem spells_iso {d : Date} (hlow : 0 ≤ d.year) (hhigh : d.year ≤ 9999) :
    Spells d d.iso.toList := by
  have hmonth := d.month_bounds
  have hday := d.exists_day
  have hdays := daysIn_le d.year d.month
  rw [Date.iso, String.toList_ofList, Date.isoChars_eq hlow hhigh]
  refine .iso (numeral_padded (by decide) ?_) (numeral_padded (by decide) ?_)
    (numeral_padded (by decide) ?_) (Int.natAbs_of_nonneg hlow).symm
  · omega
  · omega
  · omega

/-- Only characters of ASCII spell a day. -/
theorem Spells.lt_of_mem {d : Date} {cs : List Char} (h : Spells d cs) {c : Char} (hc : c ∈ cs) :
    c.toNat < 128 := by
  have hdigit : ∀ {width n : Nat} {ds : List Char}, Numeral width n ds → c ∈ ds →
      c.toNat < 128 := by
    intro width n ds hds hc
    have h := hds.digits c hc
    simp only [Char.isDigit, Bool.and_eq_true, decide_eq_true_eq, UInt32.le_iff_toNat_le] at h
    have hle : c.toNat ≤ 57 := h.2
    omega
  have halpha : c.isAlpha = true → c.toNat < 128 := by
    intro h
    have hval : c.toNat = c.val.toNat := rfl
    rcases isAlpha_iff.1 h with ⟨-, hle⟩ | ⟨-, hle⟩
    · have hle : c.val.toNat ≤ 90 := UInt32.le_iff_toNat_le.1 hle
      omega
    · have hle : c.val.toNat ≤ 122 := UInt32.le_iff_toNat_le.1 hle
      omega
  have hdash : c = '-' → c.toNat < 128 := by
    rintro rfl
    decide
  cases h with
  | iso hyear hmonth hday hy =>
      simp only [List.mem_append, List.mem_cons] at hc
      rcases hc with (hc | hc | hc) | hc | hc
      · exact hdigit hyear hc
      · exact hdash hc
      · exact hdigit hmonth hc
      · exact hdash hc
      · exact hdigit hday hc
  | exported hcs hyear hy =>
      cases hcs with
      | intro hwidth hday hmonth =>
          simp only [List.mem_append, List.mem_cons] at hc
          rcases hc with (hc | hc | hc) | hc | hc
          · exact hdigit hday hc
          · exact hdash hc
          · exact halpha ((Shape.fits_replicate_iff.1 hmonth.fits).2 c hc)
          · exact hdash hc
          · exact hdigit hyear hc

end Calendar

open Calendar

/-- **Reading and normalizing, in terms of what is spelled.**  A token is read as the day that it
spells without the blanks around it, or as a day of the year 2000 if it has the export form and the
digits of its year are not of ASCII; any other token is refused.  What is normalized spells the day,
stays as it is, and is the same for two tokens exactly if they denote the same day. -/
theorem readDate_spelled (token : String) :
    (∀ d, readDate token = .ok d ↔
      Spells d (trimChars token.toList) ∨ HasForeignYear d (trimChars token.toList)) ∧
    ((∀ d, ¬(Spells d (trimChars token.toList) ∨ HasForeignYear d (trimChars token.toList))) →
      ∃ fault, readDate token = .error fault ∧ normalizeDate token = .error fault ∧
        (Failure.validation (.date fault)).kind = .validation) ∧
    (∀ d, readDate token = .ok d →
      normalizeDate token = .ok d.iso ∧ Spells d d.iso.toList ∧ normalizeDate d.iso = .ok d.iso) ∧
    ∀ other d d', readDate token = .ok d → readDate other = .ok d' →
      (normalizeDate token = normalizeDate other ↔ d = d') := by
  have hread : ∀ d, readDate token = .ok d ↔
      Spells d (trimChars token.toList) ∨ HasForeignYear d (trimChars token.toList) :=
    fun _ => readTrimmed_eq_ok_iff
  have hnormal : ∀ {t : String} {d : Date}, readDate t = .ok d → normalizeDate t = .ok d.iso := by
    intro t d h
    rw [normalizeDate, h]
    rfl
  refine ⟨hread, fun hnone => ?_, fun d h => ?_, fun other d d' h h' => ?_⟩
  · cases h : readDate token with
    | ok d => exact absurd ((hread d).1 h) (hnone d)
    | error fault =>
        refine ⟨fault, rfl, ?_, rfl⟩
        rw [normalizeDate, h]
        rfl
  · obtain ⟨hlow, hhigh⟩ := year_of_readDate h
    exact ⟨hnormal h, spells_iso hlow hhigh, hnormal (readDate_iso hlow hhigh)⟩
  · rw [hnormal h, hnormal h', Except.ok.injEq]
    constructor
    · intro hiso
      obtain ⟨hlow, hhigh⟩ := year_of_readDate h'
      have hback := readDate_iso hlow hhigh
      rw [← hiso] at hback
      exact (eq_of_readDate_iso hback).symm
    · rintro rfl
      rfl

/-- A year in the digits of another script makes no date, but it is read as one of the year 2000. -/
theorem normalizeDate_indicYear :
    normalizeDate "05-JAN-٢٤" = .ok "2000-01-05" ∧
      ∀ d, ¬Spells d (trimChars "05-JAN-٢٤".toList) := by
  refine ⟨rfl, fun d h => ?_⟩
  have hlt := h.lt_of_mem (c := '٢') (by decide)
  exact absurd hlt (by decide)

end Circulation
