/-
**Binary floating-point numbers in exact arithmetic.**

A number is a mantissa times a power of two.  Every operation is carried out on fractions of natural
numbers and rounded once, to the nearest number of the format; a tie goes to the even mantissa.

Main definitions:

* `Format` — how many bits a mantissa has and which exponents there are;
* `Binary` — a mantissa and an exponent;
* `Format.round` — the number of a format nearest to a fraction, none if it is too large;
* `Double` — a signed number of the format with 53 bits;
* `Double.scaled?` — digits times a power of ten, the way a document's numbers are read;
* `Double.toSingle` — rounding to 24 bits.
-/

set_option relaxedAutoImplicit false
set_option autoImplicit false

namespace Circulation.Decimal

/-! ### Rounding a quotient -/

/-- The integer nearest to a quotient; a tie goes to the even one. -/
def roundDiv (num den : Nat) : Nat :=
  let q := num / den
  let r := num % den
  if 2 * r < den then q
  else if den < 2 * r then q + 1
  else if q % 2 = 0 then q else q + 1

/-! ### Formats -/

/-- A binary format: the bits of a mantissa and the least and greatest exponent of its last bit. -/
structure Format where
  precision : Nat
  lowest : Int
  highest : Int

/-- Double precision. -/
def Format.double : Format := ⟨53, -1074, 971⟩

/-- Single precision. -/
def Format.single : Format := ⟨24, -149, 104⟩

/-- The number `mantissa · 2 ^ exponent`. -/
structure Binary where
  mantissa : Nat
  exponent : Int
deriving DecidableEq, Repr

/-- Numerator and denominator of a power. -/
def powRatio (base : Nat) (e : Int) : Nat × Nat := (base.pow e.toNat, base.pow (-e).toNat)

/-- Whether the fraction `num / den` is at least `2 ^ k`. -/
def atLeastPowTwo (num den : Nat) (k : Int) : Bool :=
  let p := powRatio 2 k
  decide (den * p.1 ≤ num * p.2)

/-- The number of the format nearest to `num / den`, none if the format ends below it. -/
def Format.round (f : Format) (num den : Nat) : Option Binary :=
  if num = 0 then some ⟨0, f.lowest⟩
  else
    let k : Int := Int.ofNat num.log2 - Int.ofNat den.log2
    let k := if atLeastPowTwo num den k then k else k - 1
    let e := max (k - (f.precision - 1)) f.lowest
    let p := powRatio 2 e
    let m := roundDiv (num * p.2) (den * p.1)
    let b : Binary :=
      if m = Nat.pow 2 f.precision then ⟨Nat.pow 2 (f.precision - 1), e + 1⟩ else ⟨m, e⟩
    if f.highest < b.exponent then none else some b

/-- The fraction that a number stands for. -/
def Binary.ratio (b : Binary) : Nat × Nat :=
  let p := powRatio 2 b.exponent
  (b.mantissa * p.1, p.2)

/-! ### Double precision -/

/-- A finite number of double precision with its sign, zero included. -/
structure Double where
  negative : Bool
  magnitude : Binary
deriving DecidableEq, Repr

namespace Double

/-- A product or quotient of two magnitudes, rounded. -/
def mulDiv (a b c : Binary) : Option Binary :=
  let x := a.ratio
  let y := b.ratio
  let z := c.ratio
  Format.double.round (x.1 * y.1 * z.2) (x.2 * y.2 * z.1)

/-- The magnitude one. -/
def one : Binary := ⟨Nat.pow 2 52, -52⟩

/-- The power of ten nearest to `10 ^ k`, for the exponents that the format reaches. -/
def powTen (k : Nat) : Binary := (Format.double.round (Nat.pow 10 k) 1).getD one

/-- The greatest power of ten that is one step of scaling. -/
def scaleStep : Nat := 308

/-- Multiply a magnitude by a power of ten, each step rounded; none when it grows too large.  Small
results take several divisions, and a zero stays zero whatever the exponent. -/
def scale (b : Binary) (e : Int) : Option Binary :=
  if 0 ≤ e then
    if e ≤ scaleStep then mulDiv b (powTen e.toNat) one
    else if b.mantissa = 0 then some b else none
  else if -scaleStep ≤ e then mulDiv b one (powTen (-e).toNat)
  else if b.mantissa = 0 then some b
  else (mulDiv b one (powTen scaleStep)).bind fun b' => scale b' (e + scaleStep)
termination_by (-e).toNat
decreasing_by
  simp only [scaleStep] at *
  omega

/-- The number `± digits · 10 ^ e`: the digits are rounded first, then scaled. -/
def scaled? (negative : Bool) (digits : Nat) (e : Int) : Option Double :=
  ((Format.double.round digits 1).bind fun b => scale b e).map fun b => ⟨negative, b⟩

/-- The number nearest to an integer of machine size. -/
def ofInt (i : Int) : Double :=
  ⟨decide (i < 0), (Format.double.round i.natAbs 1).getD one⟩

/-- The number rounded to single precision, none if it is too large for that. -/
def toSingle (x : Double) : Option Double :=
  let r := x.magnitude.ratio
  (Format.single.round r.1 r.2).bind fun b =>
    let r := b.ratio
    (Format.double.round r.1 r.2).map fun b => ⟨x.negative, b⟩

end Double

end Circulation.Decimal
