/-
**The four operations on a resource: list, get, update and create.**

Each operation is a session.  What can be checked without the store is checked before a connection
is asked for; what fails inside a transaction is rolled back; an answer is given after the commit.

Main definitions:

* `Schema.plan` — the two statements of a list, or a refusal;
* `Repository` — a resource and the current day;
* `Repository.list`, `Repository.get`, `Repository.update`, `Repository.create` — the operations.
-/

import Circulation.Schema.Typing
import Circulation.Store.Session

set_option relaxedAutoImplicit false
set_option autoImplicit false

namespace Circulation

/-! ### What is known before the store is asked -/

namespace Schema

/-- The conditions of a query and their parameters. -/
def bindQuery (s : Schema) (q : Query) : Except Refusal (List Condition × List Param) := do
  let conds ← conditionsOf q.filters
  let params ← s.bind conds
  return (conds, params)

/-- The statements of a list: one that counts all rows, one that reads a page of them. -/
def plan (s : Schema) (q : Query) : Except Refusal (Statement × Statement) :=
  (s.bindQuery q).map fun (conds, params) =>
    (countRows s conds params, selectPage s conds params q.page)

/-- The statement that looks up an identifier. -/
def lookup (s : Schema) (id : String) : Except Refusal Statement :=
  (s.readId id).map (selectById s)

/-- The columns that attributes change: the primary key is never one of them. -/
def changes (s : Schema) (attributes : Record) : Except Refusal Record := do
  let r := (Record.toStorage attributes).erase s.primaryKey
  s.checkAttributes r
  return r

/-- The statement that inserts a row with attributes. -/
def creation (s : Schema) (today : Date) (attributes : Record) : Except Refusal Statement := do
  let r := s.withInitial today (← s.changes attributes)
  s.checkRequired r
  insertRow s (← s.writeValues r)

/-- The part of a row that the schema knows. -/
def known (s : Schema) (row : Record) : Record := row.filter fun name _ => (s.column? name).isSome

/-- The statement that writes a row back with changes put over it. -/
def writeBack (s : Schema) (key : Param) (row changes : Record) : Except Refusal Statement := do
  updateById s key (← s.writeValues (Record.merge (s.known row) changes))

end Schema

/-! ### Parts of sessions -/

/-- The answer of an operation. -/
abbrev Answer (α : Type) := Except Failure α

namespace Session

variable {α : Type}

/-- End without having asked the store. -/
def refuse (why : Refusal) : Session (Answer α) false := .done (.error (.validation why))

/-- Ask for a connection. -/
def opening (next : Session (Answer α) true) : Session (Answer α) false :=
  .acquire (fun e => .done (.error (.persistence (.unavailable e.message)))) next

/-- Roll back and end with a failure. -/
def abandon (f : Failure) : Session (Answer α) true := .rollback (.done (.error f))

/-- Execute a statement; an error ends the session. -/
def query (s : Schema) (statement : Statement) (next : Outcome → Session (Answer α) true) :
    Session (Answer α) true :=
  .execute statement fun
    | .error e => abandon (.ofStore s e)
    | .ok out => next out

/-- Commit, then go on; an error ends the session. -/
def conclude (s : Schema) (next : Session (Answer α) false) : Session (Answer α) true :=
  .commit fun
    | .error e => .done (.error (.ofStore s e))
    | .ok () => next

/-- Look for the row of one identifier; several rows contradict the schema. -/
def single (s : Schema) (statement : Statement) (next : Option Record → Session (Answer α) true) :
    Session (Answer α) true :=
  query s statement fun out =>
    match out.rows with
    | [] => next none
    | [row] => next (some row)
    | rows => abandon (.consistency s.resource rows.length)

end Session

/-! ### The operations -/

/-- A resource, and the current day for new rows. -/
structure Repository where
  schema : Schema
  today : Date

/-- The number that a count gives. -/
def totalOf? (out : Outcome) : Option Int64 :=
  match out.rows with
  | [] => none
  | row :: _ =>
      match row.get? "total" with
      | some (.num n) => n.toInt64?
      | _ => none

namespace Repository

open Session

variable (r : Repository)

/-- One page of the rows that a query asks for, and the number of all of them. -/
def list (q : Query) : Session (Answer (PageOf Record)) false :=
  match r.schema.plan q with
  | .error why => refuse why
  | .ok (count, select) =>
      opening <| query r.schema count fun counted =>
        match totalOf? counted with
        | none => abandon (.persistence .noTotal)
        | some total =>
            query r.schema select fun found =>
              conclude r.schema <|
                .done (.ok ⟨found.rows.map Record.toWire, total, q.page⟩)

/-- The row of an identifier, if there is one. -/
def get (id : String) : Session (Answer (Option Record)) false :=
  match r.schema.lookup id with
  | .error why => refuse why
  | .ok statement =>
      opening <| single r.schema statement fun row =>
        conclude r.schema <| .done (.ok (row.map Record.toWire))

/-- Read a row again that was there before. -/
def reread (id : String) : Session (Answer (Option Record)) false :=
  (r.get id).map fun
    | .ok none => .error (.persistence (.disappeared r.schema.resource id))
    | answer => answer

/-- Put attributes over a row, write it back, and read it again; no answer if there is no such
row. -/
def update (id : String) (attributes : Record) : Session (Answer (Option Record)) false :=
  match r.schema.readId id with
  | .error why => refuse why
  | .ok key =>
      match r.schema.changes attributes with
      | .error why => refuse why
      | .ok changes =>
          opening <| single r.schema (selectById r.schema key) fun
            | none => .rollback (.done (.ok none))
            | some row =>
                match r.schema.writeBack key row changes with
                | .error why => abandon (.validation why)
                | .ok statement =>
                    query r.schema statement fun out =>
                      if out.affected = 1 then conclude r.schema (r.reread id)
                      else abandon (.persistence (.updated r.schema.resource out.affected))

/-- Insert a row with attributes and the values of a new row, and give it back. -/
def create (attributes : Record) : Session (Answer Record) false :=
  match r.schema.creation r.today attributes with
  | .error why => refuse why
  | .ok statement =>
      opening <| query r.schema statement fun out =>
        match out.rows with
        | [row] => conclude r.schema (.done (.ok (Record.toWire row)))
        | rows => abandon (.persistence (.inserted r.schema.resource rows.length))

end Repository

end Circulation
