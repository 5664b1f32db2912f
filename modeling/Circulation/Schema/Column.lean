/-
**Columns and schemas of resources.**

Main definitions:

* `ColumnType`, `LetterCase`, `Column` — a column, its type, and how its letters are stored;
* `InitialValue`, `Initial` — what a new row gets;
* `Parent` — a column that refers to a row of another resource;
* `Schema` — all that is known about a resource;
* `Schema.column?`, `Schema.parentOf?`, `Schema.identifier` — looking things up in a schema.
-/

import Circulation.Casing
import Circulation.Text.Cut

set_option relaxedAutoImplicit false
set_option autoImplicit false

namespace Circulation

/-! ### Columns -/

/-- What a column holds. -/
inductive ColumnType where
  | text
  | integer
  | boolean
  | date
deriving DecidableEq

/-- How the letters of a written text are stored. -/
inductive LetterCase where
  | lower
  | upper
  | kept
deriving DecidableEq

/-- A column under its storage name. -/
structure Column where
  name : String
  type : ColumnType
  letters : LetterCase
deriving DecidableEq

/-- The name of a column on the wire. -/
def Column.wireName (c : Column) : String := toWireCasing c.name

/-! ### New rows and parents -/

/-- The value that a new row gets. -/
inductive InitialValue where
  | text (s : String)
  | bool (b : Bool)
  /-- The day of the creation. -/
  | today
deriving DecidableEq

/-- A column and what it holds in a new row.  Texts and truth values replace what a client sends;
the day only fills a gap. -/
structure Initial where
  column : String
  value : InitialValue
deriving DecidableEq

/-- A column that refers to a row of another resource. -/
structure Parent where
  column : String
  resource : String
deriving DecidableEq

/-- The name on the wire of a column that refers to another row. -/
def Parent.wireName (p : Parent) : String := toWireCasing p.column

/-! ### Schemas -/

/-- All that is known about a resource. -/
structure Schema where
  /-- What one of the resource is called. -/
  resource : String
  /-- What all of them are called, and where they are found. -/
  collection : String
  table : String
  primaryKey : String
  columns : List Column
  required : List String
  initial : List Initial
  parents : List Parent
deriving DecidableEq

namespace Schema

/-- The column with a name. -/
def column? (s : Schema) (name : String) : Option Column :=
  s.columns.find? fun c => c.name == name

/-- The name of the primary key on the wire. -/
def identifier (s : Schema) : String := toWireCasing s.primaryKey

/-- The first parent whose column occurs in the name of a constraint. -/
def parentOf? (s : Schema) (constraint : String) : Option Parent :=
  s.parents.find? fun p =>
    @decide (p.column.toList <:+: constraint.toList) (List.instDecidableIsInfixOfDecidableEq ..)

theorem mem_of_column? {s : Schema} {name : String} {c : Column} (h : s.column? name = some c) :
    c ∈ s.columns ∧ c.name = name := by
  have hp := List.find?_some h
  exact ⟨List.mem_of_find?_eq_some h, by simpa using hp⟩

end Schema

end Circulation
