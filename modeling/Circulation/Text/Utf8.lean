/-
**UTF-8: characters as bytes and bytes as characters.**

Bytes are read in pieces: a well-formed sequence is one character, and a sequence that breaks off is
one broken piece, as long as some character could have gone on like it.  A strict reading accepts no
broken piece; a lenient reading puts the replacement character in its place.

Main definitions:

* `encodeChar`, `encodeChars` — the bytes of a character and of a text;
* `pieces` — the characters and broken pieces of a byte sequence;
* `decode?` — the strict reading;
* `decodeLossy` — the lenient reading.
-/

set_option relaxedAutoImplicit false
set_option autoImplicit false

namespace Circulation.Text

/-! ### Writing -/

/-- The UTF-8 bytes of a character. -/
def encodeChar (c : Char) : List UInt8 :=
  let n := c.toNat
  if n < 0x80 then [UInt8.ofNat n]
  else if n < 0x800 then [UInt8.ofNat (0xC0 + n / 64), UInt8.ofNat (0x80 + n % 64)]
  else if n < 0x10000 then
    [UInt8.ofNat (0xE0 + n / 4096), UInt8.ofNat (0x80 + n / 64 % 64), UInt8.ofNat (0x80 + n % 64)]
  else
    [UInt8.ofNat (0xF0 + n / 262144), UInt8.ofNat (0x80 + n / 4096 % 64),
      UInt8.ofNat (0x80 + n / 64 % 64), UInt8.ofNat (0x80 + n % 64)]

/-- The UTF-8 bytes of a text. -/
def encodeChars (cs : List Char) : List UInt8 := cs.flatMap encodeChar

@[simp] theorem encodeChars_cons (c : Char) (cs : List Char) :
    encodeChars (c :: cs) = encodeChar c ++ encodeChars cs := rfl

/-! ### The shape of a byte sequence -/

/-- Bytes that go on a character. -/
def isTail (b : Nat) : Bool := decide (0x80 ≤ b) && decide (b < 0xC0)

/-- Second bytes that go on a three-byte character: short forms and surrogates are left out. -/
def isSecondOfThree (lead b : Nat) : Bool :=
  isTail b && (lead != 0xE0 || decide (0xA0 ≤ b)) && (lead != 0xED || decide (b < 0xA0))

/-- Second bytes that go on a four-byte character: nothing short, nothing above `U+10FFFF`. -/
def isSecondOfFour (lead b : Nat) : Bool :=
  isTail b && (lead != 0xF0 || decide (0x90 ≤ b)) && (lead != 0xF4 || decide (b < 0x90))

/-! ### Reading -/

/-- The pieces of a byte sequence, in order: a character, or `none` for a broken piece. -/
def pieces : List UInt8 → List (Option Char)
  | [] => []
  | b :: bs =>
      let lead := b.toNat
      if lead < 0x80 then some (Char.ofNat lead) :: pieces bs
      else if lead < 0xC2 ∨ 0xF4 < lead then none :: pieces bs
      else if lead < 0xE0 then
        match bs with
        | [] => [none]
        | b₁ :: rest =>
            if isTail b₁.toNat then
              some (Char.ofNat (lead % 32 * 64 + b₁.toNat % 64)) :: pieces rest
            else none :: pieces (b₁ :: rest)
      else if lead < 0xF0 then
        match bs with
        | [] => [none]
        | b₁ :: rest₁ =>
            if isSecondOfThree lead b₁.toNat then
              match rest₁ with
              | [] => [none]
              | b₂ :: rest₂ =>
                  if isTail b₂.toNat then
                    some (Char.ofNat (lead % 16 * 4096 + b₁.toNat % 64 * 64 + b₂.toNat % 64)) ::
                      pieces rest₂
                  else none :: pieces (b₂ :: rest₂)
            else none :: pieces (b₁ :: rest₁)
      else
        match bs with
        | [] => [none]
        | b₁ :: rest₁ =>
            if isSecondOfFour lead b₁.toNat then
              match rest₁ with
              | [] => [none]
              | b₂ :: rest₂ =>
                  if isTail b₂.toNat then
                    match rest₂ with
                    | [] => [none]
                    | b₃ :: rest₃ =>
                        if isTail b₃.toNat then
                          some (Char.ofNat (lead % 8 * 262144 + b₁.toNat % 64 * 4096 +
                            b₂.toNat % 64 * 64 + b₃.toNat % 64)) :: pieces rest₃
                        else none :: pieces (b₃ :: rest₃)
                  else none :: pieces (b₂ :: rest₂)
            else none :: pieces (b₁ :: rest₁)

/-- The text that a byte sequence holds, if it is UTF-8 throughout. -/
def decode? (bs : List UInt8) : Option (List Char) := (pieces bs).mapM id

/-- The text that a byte sequence holds, each broken piece as the replacement character. -/
def decodeLossy (bs : List UInt8) : List Char := (pieces bs).map (·.getD '\uFFFD')

end Circulation.Text
