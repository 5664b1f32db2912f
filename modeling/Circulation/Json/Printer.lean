/-
**Writing JSON: compact on one line, or laid out with two blanks per level.**

Main definitions:

* `Number.chars` — a number as digits, a real one in its shortest form;
* `quoted` — a text between quotes with its escapes;
* `Json.compact` — a value without any blank;
* `Json.pretty` — a value with a line for each item.
-/

import Circulation.Decimal.Shortest
import Circulation.Json.Value
import Circulation.Text.Percent

set_option relaxedAutoImplicit false
set_option autoImplicit false

namespace Circulation

open Decimal

/-! ### Numbers -/

/-- A real number always shows that it is one: a point or an exponent.  Exponents start below `1e-5`
and at `1e16` and carry their sign. -/
def Number.layout : Layout :=
  { positionalFrom := -5
    positionalBelow := 16
    wholeMark := ['.', '0']
    exponentMark := ['e']
    plusSign := ['+'] }

/-- The digits of an integer. -/
def intChars (i : Int) : List Char :=
  if i < 0 then '-' :: Nat.toDigits 10 i.natAbs else Nat.toDigits 10 i.natAbs

/-- The text of a number. -/
def Number.chars : Number → List Char
  | .int i => intChars i
  | .real x => Number.layout.render x

/-! ### Texts -/

/-- A character inside quotes. -/
def escapedChar (c : Char) : List Char :=
  if c = '"' then ['\\', '"']
  else if c = '\\' then ['\\', '\\']
  else if c.toNat = 8 then ['\\', 'b']
  else if c.toNat = 9 then ['\\', 't']
  else if c.toNat = 10 then ['\\', 'n']
  else if c.toNat = 12 then ['\\', 'f']
  else if c.toNat = 13 then ['\\', 'r']
  else if c.toNat < 32 then
    let d := Text.hexDigit (c.toNat % 16)
    ['\\', 'u', '0', '0', if c.toNat < 16 then '0' else '1', d.toLower]
  else [c]

/-- A text between quotes. -/
def quoted (s : String) : List Char := '"' :: s.toList.flatMap escapedChar ++ ['"']

/-! ### One line -/

mutual

/-- The characters of a value on one line. -/
def Json.chars : Json → List Char
  | .null => ['n', 'u', 'l', 'l']
  | .bool true => ['t', 'r', 'u', 'e']
  | .bool false => ['f', 'a', 'l', 's', 'e']
  | .num n => n.chars
  | .str s => quoted s
  | .arr items => '[' :: Json.itemChars items ++ [']']
  | .obj fields => '\x7b' :: Json.fieldChars fields ++ ['\x7d']

/-- Items with a comma between each two. -/
def Json.itemChars : List Json → List Char
  | [] => []
  | [v] => v.chars
  | v :: w :: rest => v.chars ++ ',' :: Json.itemChars (w :: rest)

/-- Fields with a comma between each two. -/
def Json.fieldChars : List (String × Json) → List Char
  | [] => []
  | [(k, v)] => quoted k ++ ':' :: v.chars
  | (k, v) :: f :: rest => quoted k ++ ':' :: v.chars ++ ',' :: Json.fieldChars (f :: rest)

end

/-- A value on one line. -/
def Json.compact (v : Json) : String := String.ofList v.chars

/-! ### One line for each item -/

/-- A new line at a level of nesting. -/
def newLine (level : Nat) : List Char := '\n' :: List.replicate (2 * level) ' '

mutual

/-- The characters of a value laid out from a level of nesting on. -/
def Json.prettyChars (level : Nat) : Json → List Char
  | .arr [] => ['[', ']']
  | .arr (v :: rest) => '[' :: Json.prettyItems (level + 1) (v :: rest) ++ newLine level ++ [']']
  | .obj [] => ['\x7b', '\x7d']
  | .obj (f :: rest) =>
      '\x7b' :: Json.prettyFields (level + 1) (f :: rest) ++ newLine level ++ ['\x7d']
  | v => v.chars

/-- Items, each on its line. -/
def Json.prettyItems (level : Nat) : List Json → List Char
  | [] => []
  | [v] => newLine level ++ v.prettyChars level
  | v :: w :: rest =>
      newLine level ++ v.prettyChars level ++ ',' :: Json.prettyItems level (w :: rest)

/-- Fields, each on its line. -/
def Json.prettyFields (level : Nat) : List (String × Json) → List Char
  | [] => []
  | [(k, v)] => newLine level ++ quoted k ++ ':' :: ' ' :: v.prettyChars level
  | (k, v) :: f :: rest =>
      newLine level ++ quoted k ++ ':' :: ' ' :: v.prettyChars level ++
        ',' :: Json.prettyFields level (f :: rest)

end

/-- A value with a line for each item. -/
def Json.pretty (v : Json) : String := String.ofList (v.prettyChars 0)

end Circulation
