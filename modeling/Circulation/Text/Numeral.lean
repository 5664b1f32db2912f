/-
**Decimal digits and whole numbers in texts.**

A text can hold the decimal digits of many scripts.  Patterns that ask for "a digit" take them all;
reading a number takes the ten ASCII digits alone.  The two classes are kept apart here.

Main definitions:

* `isDecimalDigit` — a decimal digit of any script;
* `readNat?`, `readInt?` — the number that a run of ASCII digits denotes, with a sign or without;
* `readInt64?`, `readUInt32?`, `readUInt64?` — the same within the range of a machine word.

Main results:

* `readNat?_repr` — a number is read back from its digits;
* `isDecimalDigit_of_isDigit` — the ASCII digits are decimal digits.
-/

set_option relaxedAutoImplicit false
set_option autoImplicit false

namespace Circulation.Text

/-! ### Digits of every script -/

/-- The digit zero of each script; the other nine digits follow it. -/
def zeroDigits : List Nat := [
  0x30, 0x660, 0x6F0, 0x7C0, 0x966, 0x9E6, 0xA66, 0xAE6, 0xB66, 0xBE6, 0xC66, 0xCE6, 0xD66, 0xDE6,
  0xE50, 0xED0, 0xF20, 0x1040, 0x1090, 0x17E0, 0x1810, 0x1946, 0x19D0, 0x1A80, 0x1A90, 0x1B50,
  0x1BB0, 0x1C40, 0x1C50, 0xA620, 0xA8D0, 0xA900, 0xA9D0, 0xA9F0, 0xAA50, 0xABF0, 0xFF10, 0x104A0,
  0x10D30, 0x10D40, 0x11066, 0x110F0, 0x11136, 0x111D0, 0x112F0, 0x11450, 0x114D0, 0x11650,
  0x116C0, 0x116D0, 0x116DA, 0x11730, 0x118E0, 0x11950, 0x11BF0, 0x11C50, 0x11D50, 0x11DA0,
  0x11F50, 0x16130, 0x16A60, 0x16AC0, 0x16B50, 0x16D70, 0x1CCF0, 0x1D7CE, 0x1D7D8, 0x1D7E2,
  0x1D7EC, 0x1D7F6, 0x1E140, 0x1E2F0, 0x1E4F0, 0x1E5F1, 0x1E950, 0x1FBF0]

/-- A decimal digit of some script. -/
def isDecimalDigit (c : Char) : Bool :=
  zeroDigits.any fun z => decide (z ≤ c.toNat) && decide (c.toNat < z + 10)

/-- An ASCII digit is a decimal digit. -/
theorem isDecimalDigit_of_isDigit {c : Char} (h : c.isDigit = true) :
    isDecimalDigit c = true := by
  simp only [Char.isDigit, Bool.and_eq_true, decide_eq_true_eq, ge_iff_le, UInt32.le_iff_toNat_le]
    at h
  simp only [isDecimalDigit, zeroDigits, List.any_cons, Bool.or_eq_true, Bool.and_eq_true,
    decide_eq_true_eq]
  have h₁ : 48 ≤ c.toNat := h.1
  have h₂ : c.toNat ≤ 57 := h.2
  exact Or.inl ⟨h₁, by omega⟩

/-! ### Whole numbers -/

/-- The number written by a non-empty run of ASCII digits. -/
def readNat? (cs : List Char) : Option Nat :=
  if cs.isEmpty then none
  else if cs.all Char.isDigit then some (Nat.ofDigitChars 10 cs 0) else none

@[simp] theorem readNat?_nil : readNat? [] = none := rfl

/-- A number is read back from its digits. -/
theorem readNat?_repr (n : Nat) : readNat? n.repr.toList = some n := by
  have hne : (Nat.toDigits 10 n).isEmpty = false := by
    simp [List.isEmpty_eq_false_iff, Nat.toDigits_ne_nil]
  have hall : (Nat.toDigits 10 n).all Char.isDigit = true := by
    rw [List.all_eq_true]
    exact fun c hc => Nat.isDigit_of_mem_toDigits (by decide) (by decide) hc
  simp [readNat?, Nat.toList_repr, hne, hall, Nat.ofDigitChars_ten_toDigits]

/-- The number written by digits that may carry a sign. -/
def readInt? : List Char → Option Int
  | '+' :: cs => (readNat? cs).map Int.ofNat
  | '-' :: cs => (readNat? cs).map fun n => -Int.ofNat n
  | cs => (readNat? cs).map Int.ofNat

/-- The number written by digits that may carry a plus sign. -/
def readUnsigned? : List Char → Option Nat
  | '+' :: cs => readNat? cs
  | cs => readNat? cs

/-- No sign stands in front of the digits of a number. -/
theorem readUnsigned?_repr (n : Nat) : readUnsigned? n.repr.toList = some n := by
  unfold readUnsigned?
  split
  · next cs hcs =>
      have hmem : '+' ∈ n.repr.toList := hcs ▸ List.mem_cons_self
      rw [Nat.toList_repr] at hmem
      have hplus := Nat.isDigit_of_mem_toDigits (by decide) (by decide) hmem
      cases hplus
  · exact readNat?_repr n

/-! ### Machine words -/

/-- Whether a number fits a signed word of 64 bits. -/
def fitsInt64 (i : Int) : Bool :=
  decide (-0x8000000000000000 ≤ i) && decide (i < 0x8000000000000000)

/-- A signed 64-bit number with an optional sign; out of range is no number. -/
def readInt64? (cs : List Char) : Option Int64 :=
  (readInt? cs).bind fun i => if fitsInt64 i then some (Int64.ofInt i) else none

/-- An unsigned 32-bit number with an optional plus sign; out of range is no number. -/
def readUInt32? (cs : List Char) : Option UInt32 :=
  (readUnsigned? cs).bind fun n => if n < UInt32.size then some (UInt32.ofNat n) else none

/-- An unsigned 64-bit number with an optional plus sign; out of range is no number. -/
def readUInt64? (cs : List Char) : Option UInt64 :=
  (readUnsigned? cs).bind fun n => if n < UInt64.size then some (UInt64.ofNat n) else none

end Circulation.Text
