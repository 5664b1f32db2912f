/-
**Names and values are read back from a form.**

What percent-encoding leaves standing are letters, digits and four marks, and a form is cut at other
characters.  So neither an ampersand nor an equals sign nor a plus sign in a name or a value can be
taken for one of the form, and both ways to read a form find the pairs that were written.

Main results:

* `percentDecode_escape` — escaped bytes are read back;
* `formText?_percentEncode` — **a text is read back from its encoding**, a plus sign as well;
* `formPairs?_formOf` — **a form has the pairs that it was written from**, empty names and values
  included;
* `formPairs_formOf` — the same where broken bytes would be replaced.
-/

import Circulation.Proofs.Request.Explained
import Circulation.Proofs.Text.Case
import Circulation.Proofs.Text.Cut
import Circulation.Proofs.Text.Utf8

set_option relaxedAutoImplicit false
set_option autoImplicit false

namespace Circulation.Text

/-! ### What an encoding is made of -/

/-- The characters at which a query is cut, or that stand for others in it. -/
def marks : List Char := ['&', '=', '+', '?']

/-- No hexadecimal digit is a mark. -/
theorem hexDigit_notMem_marks {n : Nat} (h : n < 16) : hexDigit n ∉ marks := by
  revert n
  decide

/-- A byte is the number of a character. -/
theorem toNat_ofNat_char (b : UInt8) : (Char.ofNat b.toNat).toNat = b.toNat := by
  have hlt := b.toNat_lt
  exact toNat_ofNat (Or.inl (by omega))

/-- A character that stands for itself is no mark, and has one byte. -/
theorem of_isUnreserved {b : UInt8} (h : isUnreserved b = true) :
    Char.ofNat b.toNat ∉ marks ∧ b.toNat < 128 := by
  have hmarks : ∀ c ∈ marks, c.isAlphanum = false ∧ c ≠ '-' ∧ c ≠ '_' ∧ c ≠ '.' ∧ c ≠ '~' := by
    intro c hc
    simp only [marks, List.mem_cons, List.not_mem_nil, or_false] at hc
    rcases hc with rfl | rfl | rfl | rfl <;> decide
  have hnat := toNat_ofNat_char b
  simp only [isUnreserved, Bool.or_eq_true, Bool.and_eq_true, decide_eq_true_eq, beq_iff_eq] at h
  constructor
  · intro hmem
    obtain ⟨halnum, hdash, hline, hdot, htilde⟩ := hmarks _ hmem
    obtain (((⟨hc, -⟩ | hc) | hc) | hc) | hc := h
    · rw [halnum] at hc
      cases hc
    · exact hdash hc
    · exact hline hc
    · exact hdot hc
    · exact htilde hc
  · obtain (((⟨-, hc⟩ | hc) | hc) | hc) | hc := h
    · exact hc
    all_goals
      rw [← hnat, hc]
      decide

/-- An escaped byte holds no mark. -/
theorem notMem_escapeByte {c : Char} (hc : c ∈ marks) (b : UInt8) : c ∉ escapeByte b := by
  have hlt := b.toNat_lt
  unfold escapeByte
  split
  · next h =>
      rw [List.mem_singleton]
      rintro rfl
      exact (of_isUnreserved h).1 hc
  · simp only [List.mem_cons, List.not_mem_nil, or_false, not_or]
    refine ⟨?_, ?_, ?_⟩
    · rintro rfl
      revert hc
      decide
    · rintro rfl
      exact hexDigit_notMem_marks (by omega) hc
    · rintro rfl
      exact hexDigit_notMem_marks (by omega) hc

/-- An encoding holds no mark. -/
theorem notMem_percentEncodeChars {c : Char} (hc : c ∈ marks) (cs : List Char) :
    c ∉ percentEncodeChars cs := by
  rw [percentEncodeChars, List.mem_flatMap]
  rintro ⟨b, -, hb⟩
  exact notMem_escapeByte hc b hb

/-- Where no plus sign stands, none is read as a space. -/
theorem plusToBlank_of_notMem {cs : List Char} (h : '+' ∉ cs) : plusToBlank cs = cs := by
  refine (List.map_congr_left ?_).trans (List.map_id cs)
  intro c hc
  refine if_neg ?_
  rintro rfl
  exact h hc

/-! ### Bytes -/

/-- **An escaped byte is read back**, whatever follows. -/
theorem percentDecode_escapeByte (b : UInt8) (cs : List Char) :
    percentDecode (escapeByte b ++ cs) = b :: percentDecode cs := by
  have hlt := b.toNat_lt
  have hbyte : UInt8.ofNat b.toNat = b := UInt8.ofNat_toNat
  unfold escapeByte
  split
  · next h =>
      have hsmall := (of_isUnreserved h).2
      have hnat := toNat_ofNat_char b
      have hne : Char.ofNat b.toNat ≠ '%' := by
        intro heq
        rw [isUnreserved, heq] at h
        revert h
        simp
      rw [List.singleton_append, percentDecode, encodeChar, hnat, if_pos hsmall, hbyte]
      · rfl
      · intro _ _ _ heq
        exact absurd heq hne
  · rw [List.cons_append, List.cons_append, List.singleton_append, percentDecode,
      hexValue?_hexDigit (by omega), hexValue?_hexDigit (by omega)]
    have hvalue : 16 * (b.toNat / 16) + b.toNat % 16 = b.toNat := Nat.div_add_mod ..
    simp only [hvalue, hbyte]

/-- **Escaped bytes are read back.** -/
theorem percentDecode_escape (bs : List UInt8) : percentDecode (bs.flatMap escapeByte) = bs := by
  induction bs with
  | nil => rfl
  | cons b bs ih => rw [List.flatMap_cons, percentDecode_escapeByte, ih]

/-- **A text is read back from its encoding.** -/
theorem formText?_percentEncode (s : String) :
    formText? (percentEncodeChars s.toList) = .ok s := by
  have hplus : '+' ∉ percentEncodeChars s.toList := notMem_percentEncodeChars (by decide) _
  rw [formText?, plusToBlank_of_notMem hplus, percentDecode?, percentEncodeChars,
    percentDecode_escape, decode?_encodeChars]
  exact congrArg Except.ok String.ofList_toList

/-! ### Pairs -/

/-- A name and its value, encoded. -/
def pieceOf (p : String × String) : List Char :=
  percentEncodeChars p.1.toList ++ '=' :: percentEncodeChars p.2.toList

/-- A form: names and values, encoded, between ampersands. -/
def formOf (pairs : List (String × String)) : List Char := ['&'].intercalate (pairs.map pieceOf)

theorem toList_joinWith (separator : String) (pieces : List String) :
    (joinWith separator pieces).toList =
      separator.toList.intercalate (pieces.map String.toList) := by
  induction pieces with
  | nil => rfl
  | cons s pieces ih =>
      cases pieces with
      | nil => simp [List.intercalate]
      | cons t rest =>
          rw [joinWith, String.toList_append, String.toList_append, ih]
          simp [List.intercalate]

/-- An ampersand or a question mark in a name or a value is escaped. -/
theorem notMem_pieceOf {c : Char} (hc : c ∈ marks) (hne : c ≠ '=') (p : String × String) :
    c ∉ pieceOf p := by
  rw [pieceOf, List.mem_append, List.mem_cons]
  rintro (h | rfl | h)
  · exact notMem_percentEncodeChars hc _ h
  · exact hne rfl
  · exact notMem_percentEncodeChars hc _ h

/-- A piece is never empty: at least the equals sign is there. -/
theorem pieceOf_ne_nil (p : String × String) : pieceOf p ≠ [] := by
  simp [pieceOf]

theorem cutPair_pieceOf (p : String × String) :
    cutPair (pieceOf p) = (percentEncodeChars p.1.toList, percentEncodeChars p.2.toList) := by
  have hname : '=' ∉ percentEncodeChars p.1.toList := notMem_percentEncodeChars (by decide) _
  rw [cutPair, pieceOf, cutFirst_singleton_eq_some_iff.2 ⟨rfl, hname⟩, Option.getD_some]

/-- A form falls into the pieces that it was put together from. -/
theorem formPieces_formOf (pairs : List (String × String)) :
    formPieces (formOf pairs) = pairs.map (cutPair ∘ pieceOf) := by
  cases hpairs : pairs with
  | nil => rfl
  | cons p ps =>
      rw [← hpairs]
      have hcut : (formOf pairs).splitOnP (· == '&') = pairs.map pieceOf := by
        refine List.splitOn_intercalate '&' ?_ (by simp [hpairs])
        intro piece hpiece
        obtain ⟨q, -, rfl⟩ := List.mem_map.1 hpiece
        exact notMem_pieceOf (by decide) (by decide) q
      have hall : (pairs.map pieceOf).filter (fun piece => !piece.isEmpty) =
          pairs.map pieceOf := by
        rw [List.filter_eq_self]
        intro piece hpiece
        obtain ⟨q, -, rfl⟩ := List.mem_map.1 hpiece
        simpa using pieceOf_ne_nil q
      rw [formPieces, hcut, hall, List.map_map]

/-- **A form has the pairs that it was written from.** -/
theorem formPairs?_formOf (pairs : List (String × String)) :
    formPairs? (formOf pairs) = .ok pairs := by
  rw [formPairs?, formPieces_formOf]
  induction pairs with
  | nil => rfl
  | cons p ps ih =>
      rw [List.map_cons, List.mapM_cons, ih, Function.comp_apply, cutPair_pieceOf,
        formText?_percentEncode, formText?_percentEncode]
      rfl

/-- A form has its pairs where broken bytes would be replaced, too. -/
theorem formPairs_formOf (pairs : List (String × String)) : formPairs (formOf pairs) = pairs :=
  formPairs_of_formPairs? (formPairs?_formOf pairs)

/-- No form begins with a question mark, so there is none to take away. -/
theorem dropWhile_formOf (pairs : List (String × String)) :
    (formOf pairs).dropWhile (· == '?') = formOf pairs := by
  cases pairs with
  | nil => rfl
  | cons p ps =>
      obtain ⟨rest, hrest⟩ : ∃ rest, formOf (p :: ps) = pieceOf p ++ rest := by
        cases ps with
        | nil => exact ⟨[], by simp [formOf, List.intercalate]⟩
        | cons q qs => exact ⟨_, by simp [formOf, List.intercalate]; rfl⟩
      obtain ⟨c, cs, hpiece⟩ := List.exists_cons_of_ne_nil (pieceOf_ne_nil p)
      have hmark : '?' ∉ pieceOf p := notMem_pieceOf (by decide) (by decide) p
      have hne : (c == '?') = false := by
        rw [beq_eq_false_iff_ne]
        rintro rfl
        exact hmark (hpiece ▸ List.mem_cons_self)
      rw [hrest, hpiece, List.cons_append, List.dropWhile_cons, hne]
      rfl

end Circulation.Text
