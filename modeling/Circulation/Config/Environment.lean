/-
**The environment: variables by name.**

A file may set variables too.  Its assignments are made in order, and none of them changes a
variable that is set already.

Main definitions:

* `Environment`, `Environment.assign` — the variables that are set, and setting one;
* `Assignment`, `Assignment.value` — a variable with a value that may refer to others;
* `Environment.withDefaults` — the environment after assignments.
-/

import Circulation.Text.Cut

set_option relaxedAutoImplicit false
set_option autoImplicit false

namespace Circulation

/-! ### Variables -/

/-- The values of the variables that are set. -/
abbrev Environment := String → Option String

namespace Environment

/-- The environment with a variable set. -/
def assign (e : Environment) (name value : String) : Environment :=
  fun n => if n = name then some value else e n

end Environment

/-! ### Assignments -/

/-- A part of a value. -/
inductive ValuePart where
  | char (c : Char)
  /-- The value of another variable. -/
  | reference (name : String)
deriving DecidableEq

/-- The characters that a part stands for; a variable that is not set is empty. -/
def ValuePart.chars (e : Environment) : ValuePart → List Char
  | char c => [c]
  | reference name => ((e name).getD "").toList

/-- A variable and the value that it shall get. -/
structure Assignment where
  name : String
  parts : List ValuePart
deriving DecidableEq

namespace Assignment

/-- The value in an environment. -/
def value (e : Environment) (a : Assignment) : String := String.ofList (a.parts.flatMap (·.chars e))

/-- The names that an assignment depends on. -/
def names (a : Assignment) : List String :=
  a.name :: a.parts.filterMap fun
    | .reference name => some name
    | .char _ => none

end Assignment

namespace Environment

/-- The environment after an assignment; a variable that is set keeps its value. -/
def withDefault (e : Environment) (a : Assignment) : Environment :=
  match e a.name with
  | some _ => e
  | none => e.assign a.name (a.value e)

/-- The environment after assignments. -/
def withDefaults (e : Environment) (l : List Assignment) : Environment := l.foldl withDefault e

end Environment

end Circulation
