/-
**The tokens of a JSON text.**

Reading stops at the first character that no token can hold, and a token of its own marks the place.
So whoever works through the tokens meets faults in the order of the text.  A number keeps its
digits and a text its escapes undecoded: what is merely passed over need not denote anything.

Main definitions:

* `NumberText`, `TextPiece`, `Token` — tokens;
* `tokens` — the tokens of a text;
* `NumberText.value?`, `textValue?` — what a number or a text denotes.
-/

import Circulation.Json.Value
import Circulation.Text.Percent

set_option relaxedAutoImplicit false
set_option autoImplicit false

namespace Circulation

open Decimal

/-! ### Tokens -/

/-- The digits of a number. -/
structure NumberText where
  negative : Bool
  whole : List Char
  fraction : List Char
  /-- Sign and digits of the exponent. -/
  exponent : Option (Bool × List Char)

/-- A piece of a quoted text: a character, or a unit of sixteen bits written as an escape. -/
inductive TextPiece where
  | char (c : Char)
  | unit (n : Nat)

/-- A token; `malformed` marks the place where the text stops making sense. -/
inductive Token where
  | openArray
  | closeArray
  | openObject
  | closeObject
  | colon
  | comma
  | null
  | bool (b : Bool)
  | number (n : NumberText)
  | text (pieces : List TextPiece)
  | malformed

/-! ### Numbers -/

/-- Fraction and exponent behind the whole digits; a point or an `e` needs digits behind it. -/
def readTail (negative : Bool) (whole cs : List Char) : Option (NumberText × List Char) :=
  let withExponent (fraction cs : List Char) : Option (NumberText × List Char) :=
    let digitsOf (negativeExp : Bool) (ds : List Char) : Option (NumberText × List Char) :=
      if (ds.takeWhile Char.isDigit).isEmpty then none
      else
        some (⟨negative, whole, fraction, some (negativeExp, ds.takeWhile Char.isDigit)⟩,
          ds.dropWhile Char.isDigit)
    match cs with
    | c :: rest =>
        if c = 'e' ∨ c = 'E' then
          match rest with
          | '+' :: ds => digitsOf false ds
          | '-' :: ds => digitsOf true ds
          | ds => digitsOf false ds
        else some (⟨negative, whole, fraction, none⟩, cs)
    | [] => some (⟨negative, whole, fraction, none⟩, [])
  match cs with
  | '.' :: rest =>
      if (rest.takeWhile Char.isDigit).isEmpty then none
      else withExponent (rest.takeWhile Char.isDigit) (rest.dropWhile Char.isDigit)
  | cs => withExponent [] cs

/-- A number after its sign: no zero stands in front of another digit. -/
def readNumber (negative : Bool) (cs : List Char) : Option (NumberText × List Char) :=
  match cs with
  | '0' :: rest =>
      match rest with
      | d :: _ => if d.isDigit then none else readTail negative ['0'] rest
      | [] => readTail negative ['0'] []
  | cs =>
      if (cs.takeWhile Char.isDigit).isEmpty then none
      else readTail negative (cs.takeWhile Char.isDigit) (cs.dropWhile Char.isDigit)

/-! ### Texts -/

/-- The number that four hexadecimal digits write. -/
def hexQuad? (a b c d : Char) : Option Nat := do
  let a ← Text.hexValue? a
  let b ← Text.hexValue? b
  let c ← Text.hexValue? c
  let d ← Text.hexValue? d
  return ((a * 16 + b) * 16 + c) * 16 + d

/-- The character that a short escape stands for. -/
def shortEscape? (c : Char) : Option Char :=
  if c = '"' ∨ c = '\\' ∨ c = '/' then some c
  else if c = 'b' then some '\x08'
  else if c = 'f' then some '\x0c'
  else if c = 'n' then some '\n'
  else if c = 'r' then some '\r'
  else if c = 't' then some '\t'
  else none

/-- The pieces of a text up to its closing quote, and what follows it. -/
def readText : List Char → Option (List TextPiece × List Char)
  | [] => none
  | '"' :: rest => some ([], rest)
  | '\\' :: 'u' :: a :: b :: c :: d :: rest => do
      let n ← hexQuad? a b c d
      let (ps, rest) ← readText rest
      return (.unit n :: ps, rest)
  | '\\' :: e :: rest => do
      let c ← shortEscape? e
      let (ps, rest) ← readText rest
      return (.char c :: ps, rest)
  | c :: rest =>
      if c.toNat < 32 then none
      else (readText rest).map fun p => (.char c :: p.1, p.2)

/-! ### A whole text -/

/-- The blanks between tokens. -/
def isGap (c : Char) : Bool := c == ' ' || c == '\n' || c == '\t' || c == '\r'

/-- The token at the front of a text without leading blanks, and the rest. -/
def nextToken (c : Char) (cs : List Char) : Option (Token × List Char) :=
  match c with
  | '[' => some (.openArray, cs)
  | ']' => some (.closeArray, cs)
  | '\x7b' => some (.openObject, cs)
  | '\x7d' => some (.closeObject, cs)
  | ':' => some (.colon, cs)
  | ',' => some (.comma, cs)
  | '"' => (readText cs).map fun p => (.text p.1, p.2)
  | '-' => (readNumber true cs).map fun p => (.number p.1, p.2)
  | 'n' => (['u', 'l', 'l'].isPrefixOf? cs).map fun rest => (.null, rest)
  | 't' => (['r', 'u', 'e'].isPrefixOf? cs).map fun rest => (.bool true, rest)
  | 'f' => (['a', 'l', 's', 'e'].isPrefixOf? cs).map fun rest => (.bool false, rest)
  | c => (readNumber false (c :: cs)).map fun p => (.number p.1, p.2)

/-- At most `n` tokens of a text, with a mark where the text breaks off. -/
def tokensUpTo : Nat → List Char → List Token
  | 0, _ => []
  | n + 1, cs =>
      match cs.dropWhile isGap with
      | [] => []
      | c :: rest =>
          match nextToken c rest with
          | some (t, rest) => t :: tokensUpTo n rest
          | none => [.malformed]

/-- The tokens of a text; there are never more tokens than characters. -/
def tokens (s : String) : List Token :=
  let cs := s.toList
  tokensUpTo cs.length cs

/-! ### What numbers and texts denote -/

/-- Collect digits while the number they write fits an unsigned word of 64 bits; the number, how
many digits it holds, and how many are left over. -/
def gather (n taken : Nat) : List Char → Nat × Nat × Nat
  | [] => (n, taken, 0)
  | c :: cs =>
      let next := 10 * n + (c.toNat - 48)
      if next < UInt64.size then gather next (taken + 1) cs else (n, taken, cs.length + 1)

/-- The number that digits denote.  Without fraction and exponent it is an integer as long as it
fits a word, a negative zero apart.  All else is real: the digits that fit a word, scaled by a power
of ten; a number beyond the range denotes nothing. -/
def NumberText.value? (t : NumberText) : Option Number :=
  let (whole, _, excess) := gather 0 0 t.whole
  if t.fraction.isEmpty ∧ t.exponent.isNone ∧ excess = 0 then
    if t.negative then
      if 0 < whole ∧ whole ≤ 0x8000000000000000 then some (.int (-Int.ofNat whole))
      else (Double.scaled? true whole 0).map .real
    else some (.int (Int.ofNat whole))
  else
    let (digits, taken, _) := gather whole 0 t.fraction
    let shift : Int :=
      match t.exponent with
      | none => 0
      | some (negative, ds) =>
          let e := Int.ofNat (Nat.ofDigitChars 10 ds 0)
          if negative then -e else e
    (Double.scaled? t.negative digits (Int.ofNat excess - Int.ofNat taken + shift)).map .real

/-- The text that pieces denote: the units of a surrogate pair become one character, and a unit of
a pair that stands alone denotes nothing. -/
def textValue? : List TextPiece → Option (List Char)
  | [] => some []
  | .char c :: rest => (textValue? rest).map (c :: ·)
  | .unit n :: .unit m :: rest =>
      if 0xD800 ≤ n ∧ n < 0xDC00 then
        if 0xDC00 ≤ m ∧ m < 0xE000 then
          (textValue? rest).map
            (Char.ofNat (0x10000 + (n - 0xD800) * 1024 + (m - 0xDC00)) :: ·)
        else none
      else if 0xDC00 ≤ n ∧ n < 0xE000 then none
      else (textValue? (.unit m :: rest)).map (Char.ofNat n :: ·)
  | .unit n :: rest =>
      if 0xD800 ≤ n ∧ n < 0xE000 then none
      else (textValue? rest).map (Char.ofNat n :: ·)

end Circulation
