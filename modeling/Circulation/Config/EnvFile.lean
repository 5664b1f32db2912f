/-
**Files that set variables.**

A file sets a variable a line: a name, an equals sign and a value.  A value may stand between quotes
and go on over several lines; single quotes keep everything, double quotes keep all but escapes and
references.  What follows a value after a blank must be a comment.  Reading ends at the first line
that is broken.

Main definitions:

* `EnvFile.logicalLines` — the lines of a file, quoted line breaks inside them;
* `EnvFile.parts` — the parts of a value;
* `EnvFile.readLine` — what a line says;
* `EnvFile.assignments` — the assignments of a file.
-/

import Circulation.Config.Environment
import Circulation.Text.Blank
import Circulation.Text.Letter

set_option relaxedAutoImplicit false
set_option autoImplicit false

namespace Circulation.EnvFile

/-! ### Lines -/

/-- What a line is in the middle of. -/
inductive Quoting where
  | bare
  | blank
  | escape
  | weak
  | weakEscape
  | strong
  | strongEscape
deriving DecidableEq

/-- What a line is in the middle of after a character outside all quotes. -/
def Quoting.ofBare (c : Char) : Quoting :=
  if c = '\\' then .escape else if c = '"' then .weak else if c = '\'' then .strong else .bare

/-- What a line is in the middle of after one more character.  A blank counts once: the character
after it is no blank any more. -/
def Quoting.next (c : Char) : Quoting → Quoting
  | .bare => if Text.isBlank c ∧ c ≠ '\n' ∧ c ≠ '\r' then .blank else .ofBare c
  | .blank => .ofBare c
  | .escape => .bare
  | .weak => if c = '\\' then .weakEscape else if c = '"' then .bare else .weak
  | .weakEscape => .weak
  | .strong => if c = '\\' then .strongEscape else if c = '\'' then .bare else .strong
  | .strongEscape => .strong

/-- The part of a line before a comment, and what the line is in the middle of at its end; with a
comment it is in the middle of nothing. -/
def scan (q : Quoting) : List Char → List Char × Option Quoting
  | [] => ([], some q)
  | c :: cs =>
      if q = .blank ∧ c = '#' then ([], none)
      else (c :: (scan (q.next c) cs).1, (scan (q.next c) cs).2)

/-- Whether a text is a comment from its first character that is no blank. -/
def isComment (cs : List Char) : Bool := (cs.dropWhile Text.isBlank).head? == some '#'

/-- The lines of a file as they are cut by line breaks, each with its break. -/
def cutLines (cs : List Char) : List (List Char) :=
  let pieces := cs.splitOnP (· == '\n')
  pieces.dropLast.map (· ++ ['\n']) ++ pieces.getLast?.toList.filter (!·.isEmpty)

/-- The lines of a file; a line goes on over a break that stands in the middle of something.  There
is no line where the file ends in the middle of something. -/
def logicalLines (q : Quoting) (held : List Char) : List (List Char) → List (Option (List Char))
  | [] => if q = .bare then [] else [none]
  | line :: lines =>
      if isComment (held ++ line) then some [] :: logicalLines .bare [] lines
      else
        match scan q line with
        | (front, none) => some (held ++ front) :: logicalLines .bare [] lines
        | (_, some .bare) => some (held ++ line) :: logicalLines .bare [] lines
        | (_, some q) => logicalLines q (held ++ line) lines

/-! ### Values -/

/-- Where the reader of a value is; `quoted` tells whether that is between double quotes. -/
inductive Place where
  | outside
  | weak
  | strong
  | escape (quoted : Bool)
  /-- In a reference without braces. -/
  | reference (quoted : Bool) (name : List Char)
  | braces (quoted : Bool) (name : List Char)
  /-- Behind the value. -/
  | behind
deriving DecidableEq

/-- Between double quotes, or outside all quotes. -/
def Place.inside (quoted : Bool) : Place := if quoted then .weak else .outside

/-- The parts that are left when a value ends at a place, if it may end there. -/
def Place.finish : Place → Option (List ValuePart)
  | .outside | .behind | .escape false => some []
  | .reference false name => some [.reference (String.ofList name)]
  | _ => none

/-- The characters that may follow a backslash, and what they stand for. -/
def unescape? (c : Char) : Option Char :=
  if ['\\', '\'', '"', '$', ' '].contains c then some c else if c = 'n' then some '\n' else none

/-- The parts of a value. -/
def parts (p : Place) : List Char → Option (List ValuePart)
  | [] => p.finish
  | c :: cs =>
      match p with
      | .behind =>
          if c = '#' then some []
          else if c = ' ' ∨ c = '\t' then parts .behind cs
          else none
      | .escape quoted =>
          match unescape? c with
          | some d => (parts (.inside quoted) cs).map (.char d :: ·)
          | none => none
      | .strong =>
          if c = '\'' then parts .outside cs else (parts .strong cs).map (.char c :: ·)
      | .reference quoted name =>
          if Text.isAlphanumeric c then parts (.reference quoted (name ++ [c])) cs
          else if c = '\x7b' ∧ name = [] then parts (.braces quoted []) cs
          else if c = '$' then
            (parts (.reference quoted []) cs).map (.reference (String.ofList name) :: ·)
          else
            (parts (.inside quoted) cs).map (.reference (String.ofList name) :: .char c :: ·)
      | .braces quoted name =>
          if c = '\x7d' then
            (parts (.inside quoted) cs).map (.reference (String.ofList name) :: ·)
          else parts (.braces quoted (name ++ [c])) cs
      | .weak =>
          if c = '$' then parts (.reference true []) cs
          else if c = '"' then parts .outside cs
          else if c = '\\' then parts (.escape true) cs
          else (parts .weak cs).map (.char c :: ·)
      | .outside =>
          if c = '$' then parts (.reference false []) cs
          else if c = '\'' then parts .strong cs
          else if c = '"' then parts .weak cs
          else if c = '\\' then parts (.escape false) cs
          else if c = ' ' ∨ c = '\t' then parts .behind cs
          else (parts .outside cs).map (.char c :: ·)

/-! ### Assignments -/

/-- What a line says. -/
inductive Line where
  | nothing
  | assignment (a : Assignment)
  | broken
deriving DecidableEq

/-- Whether a character may begin a name. -/
def beginsName (c : Char) : Bool := c.isAlpha || c == '_'

/-- Whether a character may go on in a name. -/
def continuesName (c : Char) : Bool := c.isAlphanum || c == '_' || c == '.'

/-- The name at the front, and what follows it and blanks. -/
def readName? (cs : List Char) : Option (String × List Char) :=
  if cs.head?.any beginsName then
    some (String.ofList (cs.takeWhile continuesName),
      (cs.dropWhile continuesName).dropWhile Text.isBlank)
  else none

/-- The name that is assigned to, and what follows the equals sign.  The word `export` may stand
before the name. -/
def readTarget? (cs : List Char) : Option (String × List Char) :=
  match readName? cs with
  | some (name, '=' :: rest) => some (name, rest)
  | some ("export", rest) =>
      match readName? rest with
      | some (name, '=' :: rest) => some (name, rest)
      | _ => none
  | _ => none

/-- A text without blanks at its end. -/
def trimEnd (cs : List Char) : List Char := (cs.reverse.dropWhile Text.isBlank).reverse

/-- What a line says. -/
def readLine (cs : List Char) : Line :=
  let line := (trimEnd cs).dropWhile Text.isBlank
  if line.isEmpty || isComment line then .nothing
  else
    match readTarget? line with
    | none => .broken
    | some (name, rest) =>
        let value := rest.dropWhile Text.isBlank
        if isComment value then .assignment ⟨name, []⟩
        else
          match parts .outside value with
          | some l => .assignment ⟨name, l⟩
          | none => .broken

/-- The assignments of lines, up to the first line that is broken. -/
def takeAssignments : List (Option (List Char)) → List Assignment
  | [] | none :: _ => []
  | some line :: lines =>
      match readLine line with
      | .nothing => takeAssignments lines
      | .assignment a => a :: takeAssignments lines
      | .broken => []

/-- A text without a byte order mark. -/
def dropMark : List Char → List Char
  | '\uFEFF' :: cs => cs
  | cs => cs

/-- The assignments of a file. -/
def assignments (text : String) : List Assignment :=
  takeAssignments (logicalLines .bare [] (cutLines (dropMark text.toList)))

end Circulation.EnvFile
