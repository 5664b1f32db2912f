/-
**Addresses that a service listens on.**

An address is four octets or eight groups with a port.  Octets are decimal without leading zeros;
groups are hexadecimal, a run of zero groups may be left out once, and the last two may be written
as octets.  A group address may name its scope.

Main definitions:

* `Address` — an address with its port;
* `Address.parse?` — reading one;
* `Address.display` — writing one, the longest run of zero groups left out.
-/

import Circulation.Text.Cut
import Circulation.Text.Numeral
import Circulation.Text.Percent

set_option relaxedAutoImplicit false
set_option autoImplicit false

namespace Circulation

/-- Four octets. -/
structure Octets where
  a : UInt8
  b : UInt8
  c : UInt8
  d : UInt8
deriving DecidableEq

/-- An address with its port. -/
inductive Address where
  | octets (host : Octets) (port : UInt16)
  | groups (host : Vector UInt16 8) (scope : UInt32) (port : UInt16)
deriving DecidableEq

namespace Address

/-! ### Numbers -/

/-- Reading something off the front of a text. -/
abbrev Reading (α : Type) := List Char → Option (α × List Char)

/-- The number that the digits of a base at the front write, and the rest. -/
def readDigits (base : Nat) (cs : List Char) : Option (List Nat × List Char) :=
  let isDigit (c : Char) : Bool := (Text.hexValue? c).any (· < base)
  if (cs.takeWhile isDigit).isEmpty then none
  else some ((cs.takeWhile isDigit).filterMap Text.hexValue?, cs.dropWhile isDigit)

/-- A number in a base below a bound, and the rest. -/
def readBelow (base bound : Nat) (cs : List Char) : Option (Nat × List Char) := do
  let (digits, rest) ← readDigits base cs
  let n := digits.foldl (fun n d => base * n + d) 0
  if n < bound then some (n, rest) else none

/-- A character at the front, and the rest. -/
def readMark (c : Char) : List Char → Option (List Char)
  | d :: cs => if c = d then some cs else none
  | [] => none

/-- One octet: no zero stands in front of other digits. -/
def readOctet (cs : List Char) : Option (UInt8 × List Char) := do
  let (digits, _) ← readDigits 10 cs
  if digits.length > 3 ∨ digits.length > 1 ∧ digits.head? = some 0 then none
  else
    let (n, rest) ← readBelow 10 256 cs
    return (UInt8.ofNat n, rest)

/-- Four octets with points between them. -/
def readOctets : Reading Octets := fun cs => do
  let (a, cs) ← readOctet cs
  let (b, cs) ← readOctet (← readMark '.' cs)
  let (c, cs) ← readOctet (← readMark '.' cs)
  let (d, cs) ← readOctet (← readMark '.' cs)
  return (⟨a, b, c, d⟩, cs)

/-! ### Groups -/

/-- The two groups that four octets are. -/
def Octets.toGroups (o : Octets) : List UInt16 :=
  [o.a.toUInt16 * 256 + o.b.toUInt16, o.c.toUInt16 * 256 + o.d.toUInt16]

/-- One group of at most four digits. -/
def readGroup (cs : List Char) : Option (UInt16 × List Char) := do
  let (digits, _) ← readDigits 16 cs
  if 4 < digits.length then none
  else
    let (n, rest) ← readBelow 16 65536 cs
    return (UInt16.ofNat n, rest)

/-- At most `limit` groups with colons between them; whether the last two were octets, and the
rest. -/
def readGroups (first : Bool) : Nat → List Char → List UInt16 × Bool × List Char
  | 0, cs => ([], false, cs)
  | limit + 1, cs =>
      let start := if first then some cs else readMark ':' cs
      match (if limit = 0 then none else start.bind readOctets), start.bind readGroup with
      | some (o, rest), _ => (Octets.toGroups o, true, rest)
      | none, some (g, rest) =>
          let (gs, mapped, rest) := readGroups false limit rest
          (g :: gs, mapped, rest)
      | none, none => ([], false, cs)

/-- Eight groups from a list, if it has so many. -/
def eight? (gs : List UInt16) : Option (Vector UInt16 8) :=
  if h : gs.length = 8 then some ⟨gs.toArray, by simpa using h⟩ else none

/-- Eight groups; two colons stand for as many zero groups as are missing. -/
def readHost : Reading (Vector UInt16 8) := fun cs =>
  let (front, mapped, rest) := readGroups true 8 cs
  match eight? front with
  | some host => some (host, rest)
  | none =>
      if mapped then none
      else do
        let rest ← readMark ':' (← readMark ':' rest)
        let (back, _, rest) := readGroups true (7 - front.length) rest
        let zeros := List.replicate (8 - front.length - back.length) 0
        return (← eight? (front ++ zeros ++ back), rest)

/-! ### Addresses -/

/-- The port behind a colon, and nothing else. -/
def readPort (cs : List Char) : Option UInt16 := do
  match ← readBelow 10 65536 (← readMark ':' cs) with
  | (port, []) => some (UInt16.ofNat port)
  | _ => none

/-- The scope behind a percent sign, zero if there is none. -/
def readScope : Reading UInt32
  | '%' :: cs => (readBelow 10 UInt32.size cs).map fun p => (UInt32.ofNat p.1, p.2)
  | cs => some (0, cs)

/-- The address that a text writes. -/
def parse? (s : String) : Option Address :=
  match s.toList with
  | '[' :: cs => do
      let (host, cs) ← readHost cs
      let (scope, cs) ← readScope cs
      let port ← readPort (← readMark ']' cs)
      return .groups host scope port
  | cs => do
      let (host, cs) ← readOctets cs
      return .octets host (← readPort cs)

/-! ### Writing -/

/-- Four octets with points between them. -/
def Octets.display (o : Octets) : String :=
  Text.joinWith "." ([o.a, o.b, o.c, o.d].map fun b => b.toNat.repr)

/-- A group in hexadecimal digits. -/
def groupText (g : UInt16) : String := String.ofList (Nat.toDigits 16 g.toNat)

/-- Groups with colons between them. -/
def groupsText (gs : List UInt16) : String := Text.joinWith ":" (gs.map groupText)

/-- Place and length of the first of the longest runs of zero groups, counting from `place`. -/
def longestZeros (place : Nat) : List UInt16 → Nat × Nat
  | [] => (0, 0)
  | g :: gs =>
      let here := ((g :: gs).takeWhile (· == 0)).length
      let later := longestZeros (place + 1) gs
      if later.2 ≤ here ∧ 0 < here then (place, here) else later

/-- Eight groups; octets stand for the last two of a mapped address, two colons for the longest run
of zero groups. -/
def hostText (host : Vector UInt16 8) : String :=
  let gs := host.toList
  if gs.take 6 = [0, 0, 0, 0, 0, 0xFFFF] then
    let octets := (gs.drop 6).flatMap fun g => [g / 256, g % 256]
    "::ffff:" ++ Text.joinWith "." (octets.map fun b => b.toNat.repr)
  else
    let (place, count) := longestZeros 0 gs
    if 1 < count then groupsText (gs.take place) ++ "::" ++ groupsText (gs.drop (place + count))
    else groupsText gs

/-- The text of an address. -/
def display : Address → String
  | octets host port => Octets.display host ++ ":" ++ port.toNat.repr
  | groups host scope port =>
      let scopeText := if scope = 0 then "" else "%" ++ scope.toNat.repr
      "[" ++ hostText host ++ scopeText ++ "]:" ++ port.toNat.repr

end Address

end Circulation
