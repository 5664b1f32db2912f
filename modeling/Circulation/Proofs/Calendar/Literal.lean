/-
**Dates are read back as they are written.**

A date of a year in four digits is written as an ISO literal, and this literal denotes the date.
Every date that was read has such a year, so reading, writing and reading again comes to the same.

Main results:

* `readNat?_padded` — a number is read back behind its zeros;
* `readDate_iso` — **a date of a year in four digits is read back**;
* `year_of_readDate` — a date that was read has such a year;
* `eq_of_readDate_iso` — what is read back from any date is the date.
-/

import Circulation.Calendar.Literal
import Mathlib.Algebra.Group.Nat.Defs

set_option relaxedAutoImplicit false
set_option autoImplicit false

namespace Circulation

open Text

/-! ### Trimming -/

/-- A text without blanks is not trimmed. -/
theorem Text.trimChars_of_forall {cs : List Char} (h : ∀ c ∈ cs, isBlank c = false) :
    trimChars cs = cs := by
  have hdrop : ∀ ds : List Char, (∀ c ∈ ds, isBlank c = false) → ds.dropWhile isBlank = ds := by
    intro ds hds
    cases ds with
    | nil => rfl
    | cons d ds => rw [List.dropWhile_cons_of_neg (by simp [hds d List.mem_cons_self])]
  rw [trimChars, hdrop cs h, hdrop cs.reverse fun c hc => h c (List.mem_reverse.1 hc),
    List.reverse_reverse]

/-- No digit is a blank. -/
theorem Text.isBlank_of_isDigit {c : Char} (h : c.isDigit = true) : isBlank c = false := by
  simp only [Char.isDigit, Bool.and_eq_true, decide_eq_true_eq, ge_iff_le, UInt32.le_iff_toNat_le]
    at h
  have h₁ : 48 ≤ c.toNat := h.1
  have h₂ : c.toNat ≤ 57 := h.2
  simp [isBlank]
  omega

namespace Calendar

/-! ### Numbers with zeros in front -/

theorem isDigit_of_mem_padded {width n : Nat} {c : Char} (h : c ∈ padded width n) :
    c.isDigit = true := by
  rcases List.mem_append.1 h with hzero | hdigit
  · rw [List.eq_of_mem_replicate hzero]
    rfl
  · exact Nat.isDigit_of_mem_toDigits (by decide) (by decide) hdigit

theorem length_padded {width n : Nat} (hwidth : 0 < width) (hn : n < 10 ^ width) :
    (padded width n).length = width := by
  have hle : (Nat.toDigits 10 n).length ≤ width :=
    (Nat.length_toDigits_le_iff (by decide) hwidth).2 hn
  simp only [padded, List.length_append, List.length_replicate]
  omega

theorem ofDigitChars_replicate_zero (k : Nat) :
    Nat.ofDigitChars 10 (List.replicate k '0') 0 = 0 := by
  induction k with
  | zero => rfl
  | succ k ih =>
      rw [List.replicate_succ, Nat.ofDigitChars_cons]
      exact ih

/-- **A number is read back behind its zeros.** -/
theorem readNat?_padded (width n : Nat) : readNat? (padded width n) = some n := by
  have hne : (padded width n).isEmpty = false := by
    simp [padded, List.isEmpty_eq_false_iff, Nat.toDigits_ne_nil]
  have hall : (padded width n).all Char.isDigit = true :=
    List.all_eq_true.2 fun c hc => isDigit_of_mem_padded hc
  have hvalue : Nat.ofDigitChars 10 (padded width n) 0 = n := by
    rw [padded, Nat.ofDigitChars_append, ofDigitChars_replicate_zero, Nat.ofDigitChars_ten_toDigits]
  simp [readNat?, hne, hall, hvalue]

/-- Digits of ASCII have the shape of digits. -/
theorem fits_digits {cs : List Char} (h : ∀ c ∈ cs, c.isDigit = true) :
    (Shape.digits cs.length).fits cs = true := by
  induction cs with
  | nil => rfl
  | cons c cs ih =>
      rw [List.length_cons, Shape.digits, List.replicate_succ, Shape.fits_cons_cons,
        isDecimalDigit_of_isDigit (h c List.mem_cons_self), Bool.true_and]
      exact ih fun d hd => h d (List.mem_cons_of_mem c hd)

theorem fits_append {s t : Shape} {cs ds : List Char} (h : s.fits cs = true) :
    Shape.fits (s ++ t) (cs ++ ds) = t.fits ds := by
  induction s generalizing cs with
  | nil =>
      cases cs with
      | nil => rfl
      | cons c cs => cases h
  | cons p s ih =>
      cases cs with
      | nil => cases h
      | cons c cs =>
          rw [Shape.fits_cons_cons, Bool.and_eq_true] at h
          rw [List.cons_append, List.cons_append, Shape.fits_cons_cons, h.1, Bool.true_and, ih h.2]

theorem fits_padded {width n : Nat} (hwidth : 0 < width) (hn : n < 10 ^ width) :
    (Shape.digits width).fits (padded width n) = true := by
  have hfits := fits_digits fun c (hc : c ∈ padded width n) => isDigit_of_mem_padded hc
  rwa [length_padded hwidth hn] at hfits

/-! ### Dates -/

/-- The parts of a text with two dashes, by their lengths. -/
theorem parts_of_dashes {a b c : List Char} (ha : a.length = 4) (hb : b.length = 2) :
    let cs := a ++ '-' :: b ++ '-' :: c
    cs.take 4 = a ∧ (cs.drop 5).take 2 = b ∧ cs.drop 8 = c := by
  intro cs
  have hfirst : cs = a ++ ('-' :: b ++ '-' :: c) := List.append_assoc ..
  have hsecond : cs = (a ++ ['-']) ++ (b ++ '-' :: c) := by simp [cs]
  have hthird : cs = (a ++ '-' :: b ++ ['-']) ++ c := by simp [cs]
  refine ⟨?_, ?_, ?_⟩
  · rw [hfirst]
    exact List.take_left' ha
  · rw [hsecond, List.drop_left' (by simp [ha])]
    exact List.take_left' hb
  · rw [hthird]
    exact List.drop_left' (by simp [ha, hb])

theorem fits_isoDate_padded {y m d : Nat} (hy : y < 10 ^ 4) (hm : m < 10 ^ 2) (hd : d < 10 ^ 2) :
    Shape.isoDate.fits (padded 4 y ++ '-' :: padded 2 m ++ '-' :: padded 2 d) = true := by
  rw [List.append_assoc, Shape.isoDate, List.append_assoc, fits_append (fits_padded (by decide) hy),
    List.cons_append, List.cons_append, Shape.fits_cons_cons,
    fits_append (fits_padded (by decide) hm), Shape.fits_cons_cons, fits_padded (by decide) hd]
  rfl

/-- An ISO literal with numbers that fill their places has them as its parts. -/
theorem isoParts?_padded {y m d : Nat} (hy : y < 10 ^ 4) (hm : m < 10 ^ 2) (hd : d < 10 ^ 2) :
    isoParts? (padded 4 y ++ '-' :: padded 2 m ++ '-' :: padded 2 d) =
      some (padded 4 y, padded 2 m, padded 2 d) := by
  obtain ⟨hfirst, hsecond, hthird⟩ := parts_of_dashes (c := padded 2 d)
    (length_padded (by decide) hy) (length_padded (by decide) hm)
  rw [isoParts?, if_pos (fits_isoDate_padded hy hm hd), hfirst, hsecond, hthird]

/-- The day on which requests are made in samples. -/
theorem exists_seventeenthOfMay : 1 ≤ 17 ∧ 17 ≤ daysIn 2024 5 := by decide

/-- No month is longer than 31 days. -/
theorem daysIn_le (year : Int) (month : Nat) : daysIn year month ≤ 31 := by
  unfold daysIn
  split
  · split <;> omega
  · split
    · omega
    · split <;> omega

end Calendar

open Calendar

/-- A date of a year in four digits is written as an ISO literal. -/
theorem Date.isoChars_eq {d : Date} (hlow : 0 ≤ d.year) (hhigh : d.year ≤ 9999) :
    d.isoChars =
      padded 4 d.year.natAbs ++ '-' :: padded 2 d.month ++ '-' :: padded 2 d.day := by
  rw [isoChars, dateChars, yearChars, if_pos ⟨hlow, hhigh⟩]

/-- No blank stands between the parts of a date. -/
theorem isBlank_of_mem_dashed {y m d : Nat} {c : Char}
    (hc : c ∈ padded 4 y ++ '-' :: padded 2 m ++ '-' :: padded 2 d) : isBlank c = false := by
  have hdigit : ∀ {width n : Nat}, c ∈ padded width n → isBlank c = false :=
    fun h => isBlank_of_isDigit (isDigit_of_mem_padded h)
  simp only [List.mem_append, List.mem_cons] at hc
  rcases hc with (hyear | rfl | hmonth) | rfl | hday
  · exact hdigit hyear
  · decide
  · exact hdigit hmonth
  · decide
  · exact hdigit hday

/-- No blank stands in an ISO literal. -/
theorem Date.isBlank_of_mem_isoChars {d : Date} (hlow : 0 ≤ d.year) (hhigh : d.year ≤ 9999)
    {c : Char} (hc : c ∈ d.isoChars) : isBlank c = false := by
  rw [Date.isoChars_eq hlow hhigh] at hc
  exact isBlank_of_mem_dashed hc

/-- **A date of a year in four digits is read back as it is written.** -/
theorem readDate_iso {d : Date} (hlow : 0 ≤ d.year) (hhigh : d.year ≤ 9999) :
    readDate d.iso = .ok d := by
  have hmonth := d.month_bounds
  have hday := d.exists_day
  have hdays := daysIn_le d.year d.month
  have hparts : isoParts? d.isoChars =
      some (padded 4 d.year.natAbs, padded 2 d.month, padded 2 d.day) := by
    rw [Date.isoChars_eq hlow hhigh]
    exact isoParts?_padded (by omega) (by omega) (by omega)
  have hdate : isoDate? (padded 4 d.year.natAbs) (padded 2 d.month) (padded 2 d.day) = some d := by
    have hyear : Int.ofNat d.year.natAbs = d.year := Int.natAbs_of_nonneg hlow
    simp only [isoDate?, readNat?_padded, bind, Option.bind, hyear, Date.ofYMD?_self]
  rw [readDate, Date.iso, String.toList_ofList,
    trimChars_of_forall fun c hc => Date.isBlank_of_mem_isoChars hlow hhigh hc]
  simp only [readTrimmed, hparts, hdate]

/-! ### The years of dates that were read -/

namespace Calendar

/-- Digits denote a number that they are enough for. -/
theorem lt_of_readNat? {cs : List Char} {n : Nat} (h : readNat? cs = some n) :
    n < 10 ^ cs.length := by
  have hbound : ∀ (ds : List Char) (acc : Nat), (∀ c ∈ ds, c.isDigit = true) →
      Nat.ofDigitChars 10 ds acc < (acc + 1) * 10 ^ ds.length := by
    intro ds
    induction ds with
    | nil => intro acc _; simp [Nat.ofDigitChars]
    | cons d ds ih =>
        intro acc hds
        have hd : d.toNat - '0'.toNat < 10 := by
          have hdigit := hds d List.mem_cons_self
          simp only [Char.isDigit, Bool.and_eq_true, decide_eq_true_eq, ge_iff_le,
            UInt32.le_iff_toNat_le] at hdigit
          have hle : d.toNat ≤ 57 := hdigit.2
          have hzero : '0'.toNat = 48 := rfl
          omega
        rw [Nat.ofDigitChars_cons, List.length_cons, Nat.pow_succ]
        have hrest := ih (10 * acc + (d.toNat - '0'.toNat))
          fun c hc => hds c (List.mem_cons_of_mem d hc)
        refine Nat.lt_of_lt_of_le hrest ?_
        rw [Nat.mul_comm (10 ^ ds.length) 10, ← Nat.mul_assoc]
        exact Nat.mul_le_mul_right _ (by omega)
  unfold readNat? at h
  split at h
  · cases h
  · split at h
    · next hall =>
        obtain rfl := Option.some.inj h
        have hlt := hbound cs 0 (List.all_eq_true.1 hall)
        rwa [Nat.zero_add, Nat.one_mul] at hlt
    · cases h

theorem year_of_ofYMD? {year : Int} {month day : Nat} {d : Date}
    (h : Date.ofYMD? year month day = some d) : d.year = year := by
  unfold Date.ofYMD? at h
  split at h
  · exact (congrArg Date.year (Option.some.inj h)).symm
  · cases h

/-- The year of an ISO literal has four digits. -/
theorem year_of_isoDate? {year month day : List Char} {d : Date} (hlength : year.length ≤ 4)
    (h : isoDate? year month day = some d) : 0 ≤ d.year ∧ d.year ≤ 9999 := by
  obtain ⟨y, hy, h⟩ := Option.bind_eq_some_iff.1 h
  obtain ⟨m, -, h⟩ := Option.bind_eq_some_iff.1 h
  obtain ⟨n, -, h⟩ := Option.bind_eq_some_iff.1 h
  have hlt := lt_of_readNat? hy
  have hpow : 10 ^ year.length ≤ 10 ^ 4 := Nat.pow_le_pow_right (by decide) hlength
  have hyear := year_of_ofYMD? h
  have hofNat : Int.ofNat y = (y : Int) := rfl
  omega

/-- Two characters stand for the year of the export form. -/
theorem length_of_exportParts? {cs day letters year : List Char}
    (h : exportParts? cs = some (day, letters, year)) : year.length = 2 := by
  unfold exportParts? at h
  extract_lets parts at h
  split at h
  · next hfits =>
      have hlength := Shape.length_of_fits hfits
      obtain rfl : cs.drop 6 = year := congrArg (fun p => p.2.2) (Option.some.inj h)
      simp [Shape.digits, exportTail] at hlength
      simp [hlength]
  · split at h
    · next hfits =>
        have hlength := Shape.length_of_fits hfits
        obtain rfl : cs.drop 7 = year := congrArg (fun p => p.2.2) (Option.some.inj h)
        simp [Shape.digits, exportTail] at hlength
        simp [hlength]
    · cases h

/-- The year of the export form is one of the 2000s. -/
theorem year_of_exportYear {year : List Char} (hlength : year.length = 2) {month day : Nat}
    {d : Date} (h : Date.ofYMD? (2000 + Int.ofNat ((readNat? year).getD 0)) month day = some d) :
    0 ≤ d.year ∧ d.year ≤ 9999 := by
  have hlt : (readNat? year).getD 0 < 100 := by
    cases hread : readNat? year with
    | none => simp
    | some n =>
        have hn := lt_of_readNat? hread
        rw [hlength] at hn
        exact hn
  have hyear := year_of_ofYMD? h
  have hofNat : Int.ofNat ((readNat? year).getD 0) = ((readNat? year).getD 0 : Int) := rfl
  omega

end Calendar

/-- **The year of a date that was read has four digits.** -/
theorem year_of_readDate {token : String} {d : Date} (h : readDate token = .ok d) :
    0 ≤ d.year ∧ d.year ≤ 9999 := by
  unfold readDate readTrimmed at h
  extract_lets token' at h
  -- an ISO literal has four digits for its year, the export form has two
  split at h
  · next year month day hparts =>
      have hlength : year.length ≤ 4 := by
        unfold isoParts? at hparts
        split at hparts
        · obtain rfl := congrArg Prod.fst (Option.some.inj hparts)
          exact List.length_take_le 4 _
        · cases hparts
      split at h
      · next d' hdate =>
          obtain rfl := Except.ok.inj h
          exact year_of_isoDate? hlength hdate
      · cases h
  · split at h
    · cases h
    · next day letters year hparts =>
        split at h
        · cases h
        · extract_lets y at h
          split at h
          · next d' hdate =>
              obtain rfl := Except.ok.inj h
              exact year_of_exportYear (length_of_exportParts? hparts) hdate
          · cases h

/-! ### Years with a sign -/

namespace Calendar

/-- A shape that begins with a digit fits nothing that begins with another character. -/
theorem fits_eq_false_of_head {s : Shape} {c : Char} {cs : List Char}
    (hs : s.head? = some isDecimalDigit) (hc : isDecimalDigit c = false) :
    s.fits (c :: cs) = false := by
  obtain ⟨ps, rfl⟩ := List.head?_eq_some_iff.1 hs
  rw [Shape.fits_cons_cons, hc, Bool.false_and]

/-- What does not begin with a digit is no date. -/
theorem readTrimmed_of_head {c : Char} (hc : isDecimalDigit c = false) (cs : List Char) :
    readTrimmed (c :: cs) = .error (.unrecognized (String.ofList (c :: cs))) := by
  have hiso : isoParts? (c :: cs) = none := if_neg (by
    rw [fits_eq_false_of_head rfl hc]
    exact Bool.false_ne_true)
  have hexport : exportParts? (c :: cs) = none := by
    unfold exportParts?
    extract_lets parts
    rw [fits_eq_false_of_head rfl hc, fits_eq_false_of_head rfl hc]
    rfl
  simp only [readTrimmed, hiso, hexport]

end Calendar

/-- A year that has not four digits is written with a sign. -/
theorem Date.isoChars_signed {d : Date} (h : ¬(0 ≤ d.year ∧ d.year ≤ 9999)) :
    ∃ sign, (sign = '-' ∨ sign = '+') ∧ d.isoChars =
      sign :: (padded 4 d.year.natAbs ++ '-' :: padded 2 d.month ++ '-' :: padded 2 d.day) := by
  refine ⟨if d.year < 0 then '-' else '+', ?_, ?_⟩
  · split
    · exact Or.inl rfl
    · exact Or.inr rfl
  · rw [isoChars, dateChars, yearChars, if_neg h]
    rfl

/-- A date of any other year is not read back. -/
theorem readDate_iso_signed {d : Date} (h : ¬(0 ≤ d.year ∧ d.year ≤ 9999)) :
    readDate d.iso = .error (.unrecognized d.iso) := by
  obtain ⟨sign, hsign, hchars⟩ := Date.isoChars_signed h
  have hsignBlank : isBlank sign = false := by
    rcases hsign with rfl | rfl
    · rfl
    · rfl
  have hsignDigit : isDecimalDigit sign = false := by
    rcases hsign with rfl | rfl
    · rfl
    · rfl
  have hblank : ∀ c ∈ d.isoChars, isBlank c = false := by
    intro c hc
    rw [hchars] at hc
    rcases List.mem_cons.1 hc with rfl | hc
    · exact hsignBlank
    · exact isBlank_of_mem_dashed hc
  rw [readDate, Date.iso, String.toList_ofList, trimChars_of_forall hblank, hchars]
  exact readTrimmed_of_head hsignDigit _

/-- **What is read back from a date is the date.** -/
theorem eq_of_readDate_iso {d d' : Date} (h : readDate d.iso = .ok d') : d' = d := by
  by_cases hyear : 0 ≤ d.year ∧ d.year ≤ 9999
  · rw [readDate_iso hyear.1 hyear.2] at h
    exact (Except.ok.inj h).symm
  · rw [readDate_iso_signed hyear] at h
    cases h

end Circulation
