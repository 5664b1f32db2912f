/-
**Percent-encoding: any text in the characters that a link may hold.**

A text is written byte by byte: letters, digits and `-`, `_`, `.`, `~` stand for themselves, every
other byte becomes `%` and two capital hexadecimal digits.  Reading is lenient: a `%` that two
hexadecimal digits do not follow stands for itself.

Main definitions:

* `percentEncode` — a text with everything else escaped;
* `percentDecode` — the bytes that an escaped text stands for;
* `percentDecode?`, `percentDecodeLossy` — those bytes read as UTF-8;
* `plusToBlank` — the older spelling of a space in a query.
-/

import Circulation.Text.Utf8

set_option relaxedAutoImplicit false
set_option autoImplicit false

namespace Circulation.Text

/-! ### Hexadecimal digits -/

/-- The capital hexadecimal digit of a number below sixteen. -/
def hexDigit (n : Nat) : Char := if n < 10 then Char.ofNat (48 + n) else Char.ofNat (55 + n)

/-- The value of a hexadecimal digit in either case. -/
def hexValue? (c : Char) : Option Nat :=
  if c.isDigit then some (c.toNat - 48)
  else if 'a' ≤ c ∧ c ≤ 'f' then some (c.toNat - 87)
  else if 'A' ≤ c ∧ c ≤ 'F' then some (c.toNat - 55)
  else none

/-- A hexadecimal digit is read back. -/
theorem hexValue?_hexDigit {n : Nat} (h : n < 16) : hexValue? (hexDigit n) = some n := by
  revert n
  decide

/-! ### Writing -/

/-- The bytes that stand for themselves: ASCII letters and digits and four marks. -/
def isUnreserved (b : UInt8) : Bool :=
  let c := Char.ofNat b.toNat
  c.isAlphanum && decide (b.toNat < 128) || c == '-' || c == '_' || c == '.' || c == '~'

/-- One byte, escaped unless it stands for itself. -/
def escapeByte (b : UInt8) : List Char :=
  if isUnreserved b then [Char.ofNat b.toNat]
  else ['%', hexDigit (b.toNat / 16), hexDigit (b.toNat % 16)]

/-- A sequence of characters with every reserved byte escaped. -/
def percentEncodeChars (cs : List Char) : List Char := (encodeChars cs).flatMap escapeByte

/-- A text with every reserved byte escaped. -/
def percentEncode (s : String) : String := String.ofList (percentEncodeChars s.toList)

/-! ### Reading -/

/-- The bytes that an escaped text stands for. -/
def percentDecode : List Char → List UInt8
  | [] => []
  | '%' :: a :: b :: rest =>
      match hexValue? a, hexValue? b with
      | some x, some y => UInt8.ofNat (16 * x + y) :: percentDecode rest
      | _, _ => 0x25 :: percentDecode (a :: b :: rest)
  | c :: rest => encodeChar c ++ percentDecode rest

/-- The text that an escaped text stands for, if its bytes are UTF-8. -/
def percentDecode? (cs : List Char) : Option (List Char) := decode? (percentDecode cs)

/-- The text that an escaped text stands for, broken bytes replaced. -/
def percentDecodeLossy (cs : List Char) : List Char := decodeLossy (percentDecode cs)

/-- In a query a plus sign is a space. -/
def plusToBlank (cs : List Char) : List Char := cs.map fun c => if c = '+' then ' ' else c

end Circulation.Text
