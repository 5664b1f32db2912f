/-
**The shortest decimal that reads back.**

A binary number is the nearest one to a whole interval of decimals.  Of all decimals in the interval
those with the fewest digits are written, of those the nearest, and of two equally near the one
with the even last digit.  Whether the ends of the interval belong to it depends on the mantissa: a
tie is rounded to the even one.

Main definitions:

* `Interval` — the decimals that round to a number, as fractions over one denominator;
* `candidate?` — the point of a decimal grid that stands for the number, if one does;
* `shortest` — digits and decimal exponent of the shortest decimal;
* `Layout`, `Layout.render` — how digits and exponent become a text.
-/

import Circulation.Decimal.Binary

set_option relaxedAutoImplicit false
set_option autoImplicit false

namespace Circulation.Decimal

/-! ### The decimals that round to a number -/

/-- The decimals that round to a number: from `low / den` to `high / den` around `mid / den`, the
ends included or not. -/
structure Interval where
  low : Nat
  mid : Nat
  high : Nat
  den : Nat
  closed : Bool

/-- Everything that rounds to a positive number of double precision.  Below a power of two the
numbers lie twice as close, so the lower half-gap is half as wide there. -/
def Binary.interval (b : Binary) : Interval :=
  let p := powRatio 2 (b.exponent - 2)
  let narrow := b.mantissa = Nat.pow 2 (Format.double.precision - 1) ∧
    Format.double.lowest < b.exponent
  let m := 4 * b.mantissa
  { low := (if narrow then m - 1 else m - 2) * p.1
    mid := m * p.1
    high := (m + 2) * p.1
    den := p.2
    closed := b.mantissa % 2 = 0 }

/-- Whether the decimal `c · 10 ^ g` lies in the interval. -/
def Interval.holds (i : Interval) (c : Nat) (g : Int) : Bool :=
  let p := powRatio 10 g
  let x := c * p.1 * i.den
  if i.closed then decide (i.low * p.2 ≤ x) && decide (x ≤ i.high * p.2)
  else decide (i.low * p.2 < x) && decide (x < i.high * p.2)

/-! ### Searching the grids -/

/-- The point of the grid with step `10 ^ g` that stands for the number: of the two neighbours of
the number the one inside the interval, of two inside the nearer, of two equally near the even. -/
def candidate? (i : Interval) (g : Int) : Option Nat :=
  let p := powRatio 10 g
  let c := i.mid * p.2 / (i.den * p.1)
  match i.holds c g, i.holds (c + 1) g with
  | true, true => some (roundDiv (i.mid * p.2) (i.den * p.1))
  | true, false => some c
  | false, true => some (c + 1)
  | false, false => none

/-- The decimal exponent of a positive fraction: the place of its first digit. -/
def leadingPlace (num den : Nat) : Int :=
  Int.ofNat (Nat.toDigits 10 (num * Nat.pow 10 400 / den)).length - 401

/-- Digits of a decimal and the place of the first of them. -/
structure Digits where
  digits : List Char
  place : Int

/-- A grid point as digits, without the zeros at its end. -/
def Digits.ofGrid (c : Nat) (g : Int) : Digits :=
  let cs := Nat.toDigits 10 c
  { digits := (cs.reverse.dropWhile (· == '0')).reverse
    place := g + cs.length - 1 }

/-- The shortest decimal that rounds to a positive number; seventeen digits always suffice. -/
def shortest (b : Binary) : Digits :=
  let i := b.interval
  let place := leadingPlace i.mid i.den
  let found := (List.range 17).findSome? fun n =>
    let g := place - Int.ofNat n
    (candidate? i g).map fun c => Digits.ofGrid c g
  found.getD ⟨['0'], 0⟩

/-! ### Writing it -/

/-- The decisions that a format of numbers makes about digits and a place. -/
structure Layout where
  /-- The least place written without an exponent. -/
  positionalFrom : Int
  /-- The least place written with an exponent. -/
  positionalBelow : Int
  /-- What follows a number without digits after the point. -/
  wholeMark : List Char
  /-- What stands before an exponent. -/
  exponentMark : List Char
  /-- The sign of a positive exponent. -/
  plusSign : List Char

/-- Digits with a point inside, before or behind them. -/
def Layout.positional (l : Layout) (d : Digits) : List Char :=
  if d.place < 0 then
    ['0', '.'] ++ List.replicate ((-d.place).toNat - 1) '0' ++ d.digits
  else
    let n := d.place.toNat + 1
    if d.digits.length ≤ n then
      d.digits ++ List.replicate (n - d.digits.length) '0' ++ l.wholeMark
    else d.digits.take n ++ '.' :: d.digits.drop n

/-- One digit, the others behind a point, and the place as an exponent. -/
def Layout.scientific (l : Layout) (d : Digits) : List Char :=
  let fraction := if d.digits.length ≤ 1 then [] else '.' :: d.digits.drop 1
  let exponent :=
    if d.place < 0 then '-' :: Nat.toDigits 10 d.place.natAbs
    else l.plusSign ++ Nat.toDigits 10 d.place.natAbs
  d.digits.take 1 ++ fraction ++ l.exponentMark ++ exponent

/-- The text of a number. -/
def Layout.render (l : Layout) (x : Double) : List Char :=
  let sign := if x.negative then ['-'] else []
  if x.magnitude.mantissa = 0 then sign ++ '0' :: l.wholeMark
  else
    let d := shortest x.magnitude
    sign ++
      if l.positionalFrom ≤ d.place ∧ d.place < l.positionalBelow then l.positional d
      else l.scientific d

end Circulation.Decimal
