/-
**Reading TOML documents.**

A document is read line by line; a value in brackets may run over several.  Brackets may be nested
79 deep, and a dotted key may have as many parts.

Main definitions:

* `Toml.readKey`, `Toml.readNode` — keys and values;
* `Toml.readLines` — the lines of a document;
* `Toml.parse?` — the table of a document.
-/

import Circulation.Toml.Quoted
import Circulation.Toml.Table

set_option relaxedAutoImplicit false
set_option autoImplicit false

namespace Circulation.Toml

/-! ### Between the values -/

/-- What stands behind blanks. -/
def skipGaps (cs : List Char) : List Char := cs.dropWhile isGap

/-- What stands behind a comment, up to the end of the line. -/
def skipComment : List Char → List Char
  | '#' :: cs => cs.dropWhile isPlain
  | cs => cs

/-- What stands behind the rest of a line that holds no more than a comment. -/
def afterRest? (cs : List Char) : Option (List Char) :=
  match skipComment (skipGaps cs) with
  | [] => some []
  | cs => afterLine? cs

/-- What stands behind blanks, comments and ends of lines; a comment ends with its line. -/
def skipBetween? : Nat → List Char → Option (List Char)
  | 0, cs => some cs
  | n + 1, cs =>
      match skipGaps cs with
      | [] => some []
      | c :: rest =>
          if c = '#' ∨ c = '\n' ∨ c = '\r' then
            (afterLine? (skipComment (c :: rest))).bind (skipBetween? n)
          else some (c :: rest)

/-! ### Keys -/

/-- The characters of a name without quotes. -/
def isNameChar (c : Char) : Bool := c.isAlphanum || c == '-' || c == '_'

/-- One part of a key, with or without quotes, and the rest. -/
def readName (cs : List Char) : Option (String × List Char) :=
  match cs with
  | '"' :: rest => (readBasic rest).map fun p => (String.ofList p.1, p.2)
  | '\'' :: rest => (readLiteral rest).map fun p => (String.ofList p.1, p.2)
  | cs =>
      if (cs.takeWhile isNameChar).isEmpty then none
      else some (String.ofList (cs.takeWhile isNameChar), cs.dropWhile isNameChar)

/-- The parts of a key, at most `n` of them, and the rest. -/
def readNames : Nat → List Char → Option (List String × List Char)
  | 0, _ => none
  | n + 1, cs => do
      let (name, rest) ← readName (skipGaps cs)
      match skipGaps rest with
      | '.' :: rest => do
          let (names, rest) ← readNames n rest
          return (name :: names, rest)
      | rest => return ([name], rest)

/-- How deep brackets and keys may go. -/
def maxDepth : Nat := 79

/-- A key, its last part apart, and the rest. -/
def readKey (cs : List Char) : Option ((List String × String) × List Char) := do
  let (names, rest) ← readNames maxDepth cs
  let last ← names.getLast?
  return ((names.dropLast, last), rest)

/-! ### Values -/

/-- Reading something off the front of a text. -/
abbrev Reading (α : Type) := List Char → Option (α × List Char)

/-- The items of an array up to its end, at most `n` of them. -/
def readItems (node : Reading Node) : Nat → Reading (List Node)
  | 0, _ => none
  | n + 1, cs => do
      let cs ← skipBetween? cs.length cs
      match cs with
      | ']' :: rest => return ([], rest)
      | cs =>
          let (v, rest) ← node cs
          match ← skipBetween? rest.length rest with
          | ']' :: rest => return ([v], rest)
          | ',' :: rest => do
              let (vs, rest) ← readItems node n rest
              return (v :: vs, rest)
          | _ => none

/-- A key with its value, and the rest. -/
def readEntry (node : Reading Node) : Reading Entry := fun cs => do
  let ((path, name), rest) ← readKey cs
  match rest with
  | '=' :: rest =>
      let (v, rest) ← node (skipGaps rest)
      return (⟨path, name, v⟩, rest)
  | _ => none

/-- The entries of a table in braces, one or more and at most `n`, up to its end. -/
def readEntries (node : Reading Node) : Nat → Reading (List Entry)
  | 0, _ => none
  | n + 1, cs => do
      let (e, rest) ← readEntry node cs
      match skipGaps rest with
      | '\x7d' :: rest => return ([e], rest)
      | ',' :: rest => do
          let (es, rest) ← readEntries node n rest
          return (e :: es, rest)
      | _ => none

/-- A table in braces behind the first of them. -/
def readWholeTable (node : Reading Node) : Reading Node := fun cs =>
  match skipGaps cs with
  | '\x7d' :: rest => some (.whole [], rest)
  | cs => do
      let (es, rest) ← readEntries node cs.length cs
      return (.whole (← putAll [] es), rest)

/-- A value without brackets. -/
def readScalar (cs : List Char) : Option (Node × List Char) :=
  match cs with
  | '"' :: _ => (readText cs).map fun p => (.text p.1, p.2)
  | '\'' :: _ => (readText cs).map fun p => (.text p.1, p.2)
  | 't' :: rest => (['r', 'u', 'e'].isPrefixOf? rest).map fun rest => (.bool true, rest)
  | 'f' :: rest => (['a', 'l', 's', 'e'].isPrefixOf? rest).map fun rest => (.bool false, rest)
  | _ => (readLiteralValue cs).map fun p => (.literal p.1, p.2)

/-- A value with at most `depth` nested brackets. -/
def readNode : Nat → Reading Node
  | 0, cs =>
      match cs with
      | '[' :: _ => none
      | '\x7b' :: _ => none
      | cs => readScalar cs
  | depth + 1, cs =>
      match cs with
      | '[' :: rest =>
          (readItems (readNode depth) cs.length rest).map fun p => (.array p.1, p.2)
      | '\x7b' :: rest => readWholeTable (readNode depth) rest
      | cs => readScalar cs

/-! ### Lines -/

/-- A header behind its opening brackets. -/
def readHeader (several : Bool) : Reading Line := fun cs => do
  let ((path, name), rest) ← readKey cs
  match several, rest with
  | false, ']' :: rest => return (.header several path name, rest)
  | true, ']' :: ']' :: rest => return (.header several path name, rest)
  | _, _ => none

/-- The line at the front of a text that holds more than blanks. -/
def readLine (cs : List Char) : Option (Line × List Char) :=
  match cs with
  | '[' :: '[' :: rest => readHeader true rest
  | '[' :: rest => readHeader false rest
  | cs => (readEntry (readNode maxDepth) cs).map fun p => (.entry p.1, p.2)

/-- The lines of a document, at most `n` of them. -/
def readLinesUpTo : Nat → List Char → Option (List Line)
  | 0, cs => if cs.isEmpty then some [] else none
  | n + 1, cs =>
      match skipGaps cs with
      | [] => some []
      | c :: rest =>
          if c = '#' ∨ c = '\n' ∨ c = '\r' then
            (afterRest? (c :: rest)).bind (readLinesUpTo n)
          else do
            let (line, rest) ← readLine (c :: rest)
            let rest ← afterRest? rest
            return line :: (← readLinesUpTo n rest)

/-- The lines of a document; a mark of the byte order may stand in front. -/
def readLines (s : String) : Option (List Line) :=
  match s.toList with
  | '\uFEFF' :: cs => readLinesUpTo cs.length cs
  | cs => readLinesUpTo cs.length cs

/-- The table of a document. -/
def parse? (s : String) : Option Table := (readLines s).bind build

end Circulation.Toml
