/-
**Media types: whether a body claims to be JSON.**

A media type is a type and a subtype with parameters behind them.  JSON is `application/json` in any
letter case, and every subtype of `application` whose ending behind the last plus sign is `json`.
A media type that is not well-formed is none, so its parameters are checked as well.

Main definitions:

* `Http.parametersFit` — whether parameters are well-formed;
* `Http.isJsonType` — whether a media type is JSON.
-/

import Circulation.Text.Case
import Circulation.Text.Cut

set_option relaxedAutoImplicit false
set_option autoImplicit false

namespace Circulation.Http

open Text

/-- The characters that names consist of. -/
def isTokenChar (c : Char) : Bool :=
  c.isAlphanum || "!#$%&'+-.^_`|~".toList.contains c

/-- The characters that may stand between quotes. -/
def isQuotable (c : Char) : Bool := decide (32 ≤ c.toNat) && decide (c.toNat < 127)

/-- What stands behind a quoted value, from its second character on. -/
def afterQuoted : List Char → Option (List Char)
  | [] => none
  | '"' :: rest => some rest
  | c :: rest => if isQuotable c then afterQuoted rest else none

/-- What stands behind a value without quotes: the end, or a semicolon and more. -/
def afterPlain (cs : List Char) : Option (List Char) :=
  match cs.dropWhile isTokenChar with
  | [] => some []
  | ';' :: rest => if (cs.takeWhile isTokenChar).isEmpty then none else some rest
  | _ => none

/-- What stands behind the blanks after a quoted value: the end, or a semicolon and more. -/
def afterBlanks (cs : List Char) : Option (List Char) :=
  match cs.dropWhile (· == ' ') with
  | [] => some []
  | ';' :: rest => some rest
  | _ => none

/-- What stands behind the value of a parameter. -/
def afterValue : List Char → Option (List Char)
  | '"' :: c :: rest =>
      if isQuotable c then (afterQuoted rest).bind afterBlanks else none
  | ['"'] => none
  | cs => afterPlain cs

/-- What stands behind one parameter. -/
def afterParameter (cs : List Char) : Option (List Char) :=
  match cs.dropWhile isTokenChar with
  | '=' :: rest => if (cs.takeWhile isTokenChar).isEmpty then none else afterValue rest
  | _ => none

/-- Whether the text behind a semicolon is well-formed, looking at no more than `n` parameters. -/
def parametersUpTo : Nat → List Char → Bool
  | 0, cs => cs.isEmpty
  | n + 1, cs =>
      match cs.dropWhile (· == ' ') with
      | [] => true
      | c :: rest =>
          match afterParameter (c :: rest) with
          | some rest => parametersUpTo n rest
          | none => false

/-- Whether the text behind the first semicolon is well-formed. -/
def parametersFit (cs : List Char) : Bool := parametersUpTo cs.length cs

/-- Whether a subtype stands for JSON: as a whole, in front of the last plus sign or behind it. -/
def isJsonSubtype (cs : List Char) : Bool :=
  let isJson (cs : List Char) : Bool := sameIgnoringAsciiCase (String.ofList cs) "json"
  match cs with
  | [] => false
  | c :: rest =>
      match cutLast '+' rest with
      | some (a, b) => isJson (c :: a) || isJson b
      | none => isJson cs

/-- Whether a media type is JSON. -/
def isJsonType (type : String) : Bool :=
  match cutFirst ['/'] type.toList with
  | none => false
  | some (top, rest) =>
      let subtype := rest.takeWhile isTokenChar
      sameIgnoringAsciiCase (String.ofList top) "application" && isJsonSubtype subtype &&
        match rest.dropWhile isTokenChar with
        | [] => true
        | ';' :: parameters => parametersFit parameters
        | _ => false

end Circulation.Http
