/-
**Every text is read back from its bytes.**

A character has one to four bytes, by its number.  The first byte tells how many there are, and the
others lie in a range that no first byte can lie in.  Short forms and surrogates need not be thought
of here: the number of a character is never written too long, and it is never a surrogate.

Main results:

* `pieces_encodeChar` — the bytes of a character are one piece, whatever follows;
* `decode?_encodeChars` — **a text is read back from its bytes**.
-/

import Circulation.Text.Utf8

set_option relaxedAutoImplicit false
set_option autoImplicit false

namespace Circulation.Text

/-! ### Bytes -/

theorem toNat_ofNat_byte {n : Nat} (h : n < 256) : (UInt8.ofNat n).toNat = n := by
  rw [UInt8.toNat_ofNat']
  exact Nat.mod_eq_of_lt h

theorem lt_of_isTail {b : Nat} (h : isTail b = true) : b < 256 := by
  simp only [isTail, Bool.and_eq_true, decide_eq_true_eq] at h
  omega

theorem isTail_of_isSecondOfThree {lead b : Nat} (h : isSecondOfThree lead b = true) :
    isTail b = true := by
  simp only [isSecondOfThree, Bool.and_eq_true] at h
  exact h.1.1

theorem isTail_of_isSecondOfFour {lead b : Nat} (h : isSecondOfFour lead b = true) :
    isTail b = true := by
  simp only [isSecondOfFour, Bool.and_eq_true] at h
  exact h.1.1

/-- The number of a character is in range, and no surrogate. -/
theorem toNat_char_cases (c : Char) : c.toNat < 0xD800 ∨ 0xDFFF < c.toNat ∧ c.toNat < 0x110000 :=
  c.valid

/-! ### Pieces by the number of their bytes -/

section Pieces

variable {a b c d : Nat} (bs : List UInt8)

theorem pieces_one (ha : a < 0x80) :
    pieces (UInt8.ofNat a :: bs) = some (Char.ofNat a) :: pieces bs := by
  rw [pieces.eq_def]
  simp only [toNat_ofNat_byte (show a < 256 by omega), ha, if_true]

theorem pieces_two (hlow : 0xC2 ≤ a) (hhigh : a < 0xE0) (hb : isTail b = true) :
    pieces (UInt8.ofNat a :: UInt8.ofNat b :: bs) =
      some (Char.ofNat (a % 32 * 64 + b % 64)) :: pieces bs := by
  have hlead := toNat_ofNat_byte (show a < 256 by omega)
  have hsecond := toNat_ofNat_byte (lt_of_isTail hb)
  rw [pieces.eq_def]
  simp only [hlead, hsecond]
  rw [if_neg (by omega), if_neg (by omega), if_pos hhigh, if_pos hb]

theorem pieces_three (hlow : 0xE0 ≤ a) (hhigh : a < 0xF0) (hb : isSecondOfThree a b = true)
    (hc : isTail c = true) :
    pieces (UInt8.ofNat a :: UInt8.ofNat b :: UInt8.ofNat c :: bs) =
      some (Char.ofNat (a % 16 * 4096 + b % 64 * 64 + c % 64)) :: pieces bs := by
  have hlead := toNat_ofNat_byte (show a < 256 by omega)
  have hsecond := toNat_ofNat_byte (lt_of_isTail (isTail_of_isSecondOfThree hb))
  have hthird := toNat_ofNat_byte (lt_of_isTail hc)
  rw [pieces.eq_def]
  simp only [hlead, hsecond, hthird]
  rw [if_neg (by omega), if_neg (by omega), if_neg (by omega), if_pos hhigh, if_pos hb, if_pos hc]

theorem pieces_four (hlow : 0xF0 ≤ a) (hhigh : a ≤ 0xF4) (hb : isSecondOfFour a b = true)
    (hc : isTail c = true) (hd : isTail d = true) :
    pieces (UInt8.ofNat a :: UInt8.ofNat b :: UInt8.ofNat c :: UInt8.ofNat d :: bs) =
      some (Char.ofNat (a % 8 * 262144 + b % 64 * 4096 + c % 64 * 64 + d % 64)) :: pieces bs := by
  have hlead := toNat_ofNat_byte (show a < 256 by omega)
  have hsecond := toNat_ofNat_byte (lt_of_isTail (isTail_of_isSecondOfFour hb))
  have hthird := toNat_ofNat_byte (lt_of_isTail hc)
  have hfourth := toNat_ofNat_byte (lt_of_isTail hd)
  rw [pieces.eq_def]
  simp only [hlead, hsecond, hthird, hfourth]
  rw [if_neg (by omega), if_neg (by omega), if_neg (by omega), if_neg (by omega), if_pos hb,
    if_pos hc, if_pos hd]

end Pieces

/-- **The bytes of a character are one piece**, whatever follows. -/
theorem pieces_encodeChar (c : Char) (bs : List UInt8) :
    pieces (encodeChar c ++ bs) = some c :: pieces bs := by
  have hvalid := toNat_char_cases c
  have hchar : Char.ofNat c.toNat = c := Char.ofNat_toNat c
  have htail : ∀ n : Nat, isTail (0x80 + n % 64) = true := fun n => by simp [isTail]; omega
  generalize hn : c.toNat = n at hvalid hchar
  unfold encodeChar
  simp only [hn]
  -- one case for each number of bytes
  split
  · next h => rw [List.singleton_append, pieces_one bs h, hchar]
  split
  · have hvalue : (0xC0 + n / 64) % 32 * 64 + (0x80 + n % 64) % 64 = n := by omega
    rw [List.cons_append, List.singleton_append,
      pieces_two bs (by omega) (by omega) (htail n), hvalue, hchar]
  split
  · have hsecond : isSecondOfThree (0xE0 + n / 4096) (0x80 + n / 64 % 64) = true := by
      simp [isSecondOfThree, isTail]
      omega
    have hvalue : (0xE0 + n / 4096) % 16 * 4096 + (0x80 + n / 64 % 64) % 64 * 64 +
        (0x80 + n % 64) % 64 = n := by
      omega
    rw [List.cons_append, List.cons_append, List.singleton_append,
      pieces_three bs (by omega) (by omega) hsecond (htail n), hvalue, hchar]
  · have hsecond : isSecondOfFour (0xF0 + n / 262144) (0x80 + n / 4096 % 64) = true := by
      simp [isSecondOfFour, isTail]
      omega
    have hvalue : (0xF0 + n / 262144) % 8 * 262144 + (0x80 + n / 4096 % 64) % 64 * 4096 +
        (0x80 + n / 64 % 64) % 64 * 64 + (0x80 + n % 64) % 64 = n := by
      omega
    rw [List.cons_append, List.cons_append, List.cons_append, List.singleton_append,
      pieces_four bs (by omega) (by omega) hsecond (htail (n / 64)) (htail n), hvalue, hchar]

/-! ### Texts -/

/-- The bytes of a text fall into its characters. -/
theorem pieces_encodeChars (cs : List Char) : pieces (encodeChars cs) = cs.map some := by
  induction cs with
  | nil => rfl
  | cons c cs ih => rw [encodeChars_cons, pieces_encodeChar, ih, List.map_cons]

/-- **A text is read back from its bytes.** -/
theorem decode?_encodeChars (cs : List Char) : decode? (encodeChars cs) = some cs := by
  unfold decode?
  rw [pieces_encodeChars]
  induction cs with
  | nil => rfl
  | cons c cs ih => rw [List.map_cons, List.mapM_cons, ih]; rfl

end Circulation.Text
