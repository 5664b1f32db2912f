/-
**Tables of TOML, and how the lines of a document build them.**

A table comes about by a header, by a dotted key, or because a header needs it on its way.  How it
came about decides what may still be added: a name gets a value once, a header opens a table once,
and dotted keys add only to tables that dotted keys made.

Main definitions:

* `Toml.Node`, `Toml.Table` — values, and names with their values;
* `Toml.put` — a value under a dotted key;
* `Toml.update` — a change at the place that a header names;
* `Toml.Line`, `Toml.build` — the lines of a document and the table that they build.
-/

import Circulation.Toml.Literal

set_option relaxedAutoImplicit false
set_option autoImplicit false

namespace Circulation.Toml

/-! ### Values -/

/-- How a table came about. -/
inductive Made where
  /-- A header opened it. -/
  | opened
  /-- A dotted key made it. -/
  | dotted
  /-- A header needed it on its way. -/
  | implied
deriving DecidableEq

/-- A value. -/
inductive Node where
  | text (s : String)
  | bool (b : Bool)
  | literal (l : Literal)
  | array (items : List Node)
  /-- A table that is written as one value. -/
  | whole (entries : List (String × Node))
  /-- A table that lines of the document fill. -/
  | table (made : Made) (entries : List (String × Node))
  /-- The tables that headers in double brackets opened. -/
  | tables (items : List (List (String × Node)))

instance : Inhabited Node := ⟨.bool false⟩

/-- Names and their values. -/
abbrev Table := List (String × Node)

namespace Table

/-- The value of a name. -/
def get? (t : Table) (name : String) : Option Node := (t.find? fun e => e.1 == name).map (·.2)

/-- The table with another value for a name, behind the others if the name is new. -/
def set (t : Table) (name : String) (v : Node) : Table :=
  if t.any fun e => e.1 == name then t.map fun e => if e.1 = name then (name, v) else e
  else t ++ [(name, v)]

end Table

/-- Change the last of several things. -/
def changeLast? {α : Type} (f : α → Option α) (l : List α) : Option (List α) :=
  match l.getLast? with
  | none => none
  | some a => (f a).map fun b => l.dropLast ++ [b]

/-! ### Dotted keys -/

/-- Put a value under a dotted key; nothing may stand there. -/
def put (path : List String) (name : String) (v : Node) (t : Table) : Option Table :=
  match path with
  | [] => if (t.get? name).isSome then none else some (t.set name v)
  | p :: path =>
      let last := path.isEmpty
      match t.get? p with
      | none => (put path name v []).map fun sub => t.set p (.table .dotted sub)
      | some (.table .dotted sub) =>
          (put path name v sub).map fun sub => t.set p (.table .dotted sub)
      | some (.table .implied sub) =>
          if last then none
          else (put path name v sub).map fun sub => t.set p (.table .implied sub)
      | some (.tables items) =>
          if last then none
          else (changeLast? (put path name v) items).map fun items => t.set p (.tables items)
      | some _ => none

/-- A dotted key and its value. -/
structure Entry where
  path : List String
  name : String
  value : Node

/-- Put entries one after the other. -/
def putAll (t : Table) (entries : List Entry) : Option Table :=
  entries.foldlM (fun t e => put e.path e.name e.value t) t

/-! ### Headers -/

/-- Change the value at the place that a header names; tables on the way are made if need be. -/
def update (path : List String) (name : String) (f : Option Node → Option Node) (t : Table) :
    Option Table :=
  match path with
  | [] => (f (t.get? name)).map (t.set name)
  | p :: path =>
      match t.get? p with
      | none => (update path name f []).map fun sub => t.set p (.table .implied sub)
      | some (.table made sub) => (update path name f sub).map fun sub => t.set p (.table made sub)
      | some (.tables items) =>
          (changeLast? (update path name f) items).map fun items => t.set p (.tables items)
      | some _ => none

/-- Open a table and fill it; one that was only needed on the way of a header may be opened. -/
def openTable (entries : List Entry) : Option Node → Option Node
  | none => (putAll [] entries).map (.table .opened)
  | some (.table .implied sub) => (putAll sub entries).map (.table .opened)
  | some _ => none

/-- Fill one more of several tables. -/
def addTable (entries : List Entry) : Option Node → Option Node
  | none => (putAll [] entries).map fun t => .tables [t]
  | some (.tables items) => (putAll [] entries).map fun t => .tables (items ++ [t])
  | some _ => none

/-! ### Documents -/

/-- A line of a document that is not blank. -/
inductive Line where
  | entry (e : Entry)
  /-- A header, of one table or of one of several. -/
  | header (several : Bool) (path : List String) (name : String)

/-- The entries in front of the first header, and the rest. -/
def leadingEntries : List Line → List Entry × List Line
  | .entry e :: rest => let p := leadingEntries rest; (e :: p.1, p.2)
  | lines => ([], lines)

theorem length_leadingEntries_le (lines : List Line) :
    (leadingEntries lines).2.length ≤ lines.length := by
  induction lines with
  | nil => simp [leadingEntries]
  | cons l rest ih =>
      cases l with
      | entry e =>
          simp only [leadingEntries, List.length_cons]
          omega
      | header several path name => simp [leadingEntries]

/-- The table with the sections that begin with headers. -/
def buildSections (t : Table) (lines : List Line) : Option Table :=
  match lines with
  | [] => some t
  | .header several path name :: rest =>
      let p := leadingEntries rest
      match update path name (if several then addTable p.1 else openTable p.1) t with
      | some t => buildSections t p.2
      | none => none
  | .entry _ :: _ => none
termination_by lines.length
decreasing_by
  have := length_leadingEntries_le rest
  simp only [List.length_cons]
  omega

/-- The table that the lines of a document build. -/
def build (lines : List Line) : Option Table :=
  let p := leadingEntries lines
  (putAll [] p.1).bind fun t => buildSections t p.2

end Circulation.Toml
