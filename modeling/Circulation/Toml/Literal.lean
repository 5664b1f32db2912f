/-
**Numbers and moments in TOML.**

An integer fits a signed word of 64 bits; it may be written in base 16, 8 or 2, and underscores may
stand between its digits.  Reals and moments are kept as they are written, once they are
well-formed: a real must not be too large, and a date must exist.

Main definitions:

* `Toml.Literal` — what a number or a moment denotes;
* `Toml.readMoment`, `Toml.readReal`, `Toml.readInteger` — reading one of a kind;
* `Toml.readLiteralValue` — reading any.
-/

import Circulation.Calendar.Date
import Circulation.Decimal.Binary
import Circulation.Text.Numeral
import Circulation.Text.Percent

set_option relaxedAutoImplicit false
set_option autoImplicit false

namespace Circulation.Toml

open Text

/-- A number or a moment. -/
inductive Literal where
  | integer (i : Int64)
  /-- A real number as it is written. -/
  | real (text : List Char)
  /-- A moment as it is written. -/
  | moment (text : List Char)
deriving DecidableEq

/-! ### Digits -/

/-- Digits that underscores may separate, and the rest; an underscore needs a digit behind it. -/
def readDigits (isDigit : Char → Bool) : List Char → Option (List Char × List Char)
  | [] => none
  | c :: cs =>
      if isDigit c then
        match cs with
        | '_' :: rest => (readDigits isDigit rest).map fun p => (c :: p.1, p.2)
        | d :: rest =>
            if isDigit d then (readDigits isDigit (d :: rest)).map fun p => (c :: p.1, p.2)
            else some ([c], d :: rest)
        | [] => some ([c], [])
      else none

/-- A sign, if there is one. -/
def readSign : List Char → Option Char × List Char
  | '+' :: cs => (some '+', cs)
  | '-' :: cs => (some '-', cs)
  | cs => (none, cs)

/-- The digits of a whole number: no zero stands in front of others. -/
def readWhole : List Char → Option (List Char × List Char)
  | '0' :: cs => some (['0'], cs)
  | cs => readDigits Char.isDigit cs

/-! ### Integers -/

/-- The word that a number is, if it fits. -/
def wordOf? (i : Int) : Option Int64 := if fitsInt64 i then some (Int64.ofInt i) else none

/-- An integer in another base, behind its mark. -/
def readBased (base : Nat) (cs : List Char) : Option (Int64 × List Char) := do
  let isDigit (c : Char) : Bool := (hexValue? c).any (· < base)
  let (digits, rest) ← readDigits isDigit cs
  let n := digits.foldl (fun n c => base * n + (hexValue? c).getD 0) 0
  return (← wordOf? n, rest)

/-- An integer, and the rest. -/
def readInteger (cs : List Char) : Option (Int64 × List Char) :=
  match cs with
  | '0' :: 'x' :: rest => readBased 16 rest
  | '0' :: 'o' :: rest => readBased 8 rest
  | '0' :: 'b' :: rest => readBased 2 rest
  | cs => do
      let (sign, cs) := readSign cs
      let (digits, rest) ← readWhole cs
      let n : Int := Nat.ofDigitChars 10 digits 0
      return (← wordOf? (if sign = some '-' then -n else n), rest)

/-! ### Reals -/

/-- The digits behind a point, if there is one. -/
def readFraction : List Char → Option (List Char × List Char)
  | '.' :: cs => readDigits Char.isDigit cs
  | cs => some ([], cs)

/-- The exponent behind a mark, if there is one. -/
def readExponent : List Char → Option (Int × List Char)
  | c :: cs =>
      if c = 'e' ∨ c = 'E' then do
        let (sign, cs) := readSign cs
        let (digits, rest) ← readDigits Char.isDigit cs
        let n : Int := Nat.ofDigitChars 10 digits 0
        return (if sign = some '-' then -n else n, rest)
      else some (0, c :: cs)
  | [] => some (0, [])

/-- Whether `digits · 10 ^ e` is beyond the numbers of double precision. -/
def isTooLarge (digits : Nat) (e : Int) : Bool :=
  if digits = 0 then false
  else
    let place := e + Int.ofNat (Nat.toDigits 10 digits).length
    if 400 < place then true
    else if place < 0 then false
    else
      let p := Decimal.powRatio 10 e
      (Decimal.Format.double.round (digits * p.1) p.2).isNone

/-- The part of a text that was read. -/
def taken (cs rest : List Char) : List Char := cs.take (cs.length - rest.length)

/-- A real number, and the rest: it has a point or an exponent, or is infinite or no number. -/
def readReal (cs : List Char) : Option (List Char × List Char) := do
  let (sign, behind) := readSign cs
  let word (w : List Char) : Option (List Char × List Char) :=
    (w.isPrefixOf? behind).map fun rest => (taken cs rest, rest)
  match behind with
  | 'i' :: _ => word ['i', 'n', 'f']
  | 'n' :: _ => word ['n', 'a', 'n']
  | _ =>
      let (whole, afterWhole) ← readWhole behind
      let (fraction, afterFraction) ← readFraction afterWhole
      let (exponent, rest) ← readExponent afterFraction
      if rest.length = afterWhole.length then none
      else
        let digits := Nat.ofDigitChars 10 (whole ++ fraction) 0
        if sign ≠ some '-' ∧ isTooLarge digits (exponent - fraction.length) then none
        else some (taken cs rest, rest)

/-! ### Moments -/

/-- A number of a fixed count of digits within bounds, and the rest. -/
def readField (count low high : Nat) (cs : List Char) : Option (Nat × List Char) := do
  let digits := cs.take count
  if digits.length = count then
    let n ← readNat? digits
    if low ≤ n ∧ n ≤ high then some (n, cs.drop count) else none
  else none

/-- A character at the front, and the rest. -/
def readMark (c : Char) : List Char → Option (List Char)
  | d :: cs => if c = d then some cs else none
  | [] => none

/-- What stands behind a date; the day must exist. -/
def afterDate? (cs : List Char) : Option (List Char) := do
  let (year, cs) ← readField 4 0 9999 cs
  let cs ← readMark '-' cs
  let (month, cs) ← readField 2 1 12 cs
  let cs ← readMark '-' cs
  let (day, cs) ← readField 2 1 31 cs
  let _ ← Date.ofYMD? year month day
  return cs

/-- What stands behind a fraction of a second, if there is one. -/
def afterFraction? : List Char → Option (List Char)
  | '.' :: cs =>
      if (cs.takeWhile Char.isDigit).isEmpty then none else some (cs.dropWhile Char.isDigit)
  | cs => some cs

/-- What stands behind a time of day; a minute may have a leap second. -/
def afterTime? (cs : List Char) : Option (List Char) := do
  let (_, cs) ← readField 2 0 23 cs
  let cs ← readMark ':' cs
  let (_, cs) ← readField 2 0 59 cs
  let cs ← readMark ':' cs
  let (_, cs) ← readField 2 0 60 cs
  afterFraction? cs

/-- What stands behind an offset from universal time, if there is one. -/
def afterOffset? (cs : List Char) : Option (List Char) :=
  match cs with
  | 'Z' :: rest => some rest
  | 'z' :: rest => some rest
  | c :: rest =>
      if c = '+' ∨ c = '-' then do
        let (_, rest) ← readField 2 0 23 rest
        let rest ← readMark ':' rest
        let (_, rest) ← readField 2 0 59 rest
        return rest
      else some cs
  | [] => some []

/-- Whether a text begins with digits and a mark behind them. -/
def beginsWith (count : Nat) (mark : Char) (cs : List Char) : Bool :=
  (cs.take count).length == count && (cs.take count).all Char.isDigit &&
    (cs.drop count).head? == some mark

/-- What stands behind the time of a date, if it has one. -/
def afterDateTime? (cs : List Char) : Option (List Char) :=
  match cs with
  | c :: rest =>
      if (c = 'T' ∨ c = 't' ∨ c = ' ') ∧ beginsWith 2 ':' rest then
        (afterTime? rest).bind afterOffset?
      else some cs
  | [] => some []

/-- A moment, and the rest: a date, a time of day, or both. -/
def readMoment (cs : List Char) : Option (List Char × List Char) :=
  let rest :=
    if beginsWith 4 '-' cs then (afterDate? cs).bind afterDateTime? else afterTime? cs
  rest.map fun rest => (taken cs rest, rest)

/-! ### Any of them -/

/-- A number or a moment, and the rest. -/
def readLiteralValue (cs : List Char) : Option (Literal × List Char) :=
  if beginsWith 4 '-' cs || beginsWith 2 ':' cs then
    (readMoment cs).map fun p => (.moment p.1, p.2)
  else
    match readReal cs with
    | some (text, rest) => some (.real text, rest)
    | none => (readInteger cs).map fun p => (.integer p.1, p.2)

end Circulation.Toml
