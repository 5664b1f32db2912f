/-
**Typing: from JSON values to parameters, column by column.**

Main definitions:

* `Column.param` — the parameter that a value makes for a column;
* `Column.written` — the same with its letters as the column stores them;
* `Schema.readId` — the key that an identifier denotes;
* `Schema.bind` — the parameters of conditions;
* `Schema.checkAttributes`, `Schema.checkRequired` — what a record must and may hold;
* `Schema.withInitial` — a record with the values of a new row;
* `Schema.writeValues` — the columns that a record writes and their parameters.
-/

import Circulation.Record
import Circulation.Schema.Catalogue
import Circulation.Sql.Condition
import Circulation.Sql.Param

set_option relaxedAutoImplicit false
set_option autoImplicit false

namespace Circulation

/-! ### One value -/

namespace Column

/-- The refusal of a value. -/
def refuse (c : Column) (v : Json) : Refusal := .badValue v c.wireName

/-- The text that a value makes: numbers and truth values are written out. -/
def textParam (c : Column) (v : Json) : Except Refusal Param :=
  match v with
  | .str s => .ok (.text s)
  | .num n => .ok (.text (String.ofList n.chars))
  | .bool true => .ok (.text "true")
  | .bool false => .ok (.text "false")
  | _ => .error (c.refuse v)

/-- The number that a value makes: a text is read, blanks around it ignored. -/
def intParam (c : Column) (v : Json) : Except Refusal Param :=
  let read? : Option Int64 :=
    match v with
    | .num n => n.toInt64?
    | .str s => Text.readInt64? (Text.trimChars s.toList)
    | _ => none
  match read? with
  | some i => .ok (.int i)
  | none => .error (c.refuse v)

/-- The truth value that a value makes: a text is read in any letter case. -/
def boolParam (c : Column) (v : Json) : Except Refusal Param :=
  match v with
  | .bool b => .ok (.bool b)
  | .str s =>
      if Text.sameIgnoringAsciiCase s "true" then .ok (.bool true)
      else if Text.sameIgnoringAsciiCase s "false" then .ok (.bool false)
      else .error (c.refuse v)
  | _ => .error (c.refuse v)

/-- The day that a value makes. -/
def dateParam (c : Column) (v : Json) : Except Refusal Param :=
  match v with
  | .str s =>
      match readDate s with
      | .ok d => .ok (.date d)
      | .error fault => .error (.date fault)
  | _ => .error (c.refuse v)

/-- The parameter that a value makes for a column. -/
def param (c : Column) (v : Json) : Except Refusal Param :=
  if v.isNull then .ok (.null c.type)
  else
    match c.type with
    | .text => c.textParam v
    | .integer => c.intParam v
    | .boolean => c.boolParam v
    | .date => c.dateParam v

end Column

/-- A text with its letters the way a column stores them. -/
def LetterCase.apply : LetterCase → String → String
  | .lower, s => Text.lower s
  | .upper, s => Text.upper s
  | .kept, s => s

/-- A parameter with the letters of a text the way a column stores them. -/
def LetterCase.applyParam (l : LetterCase) : Param → Param
  | .text s => .text (l.apply s)
  | p => p

/-- The parameter that a value makes when a column is written. -/
def Column.written (c : Column) (v : Json) : Except Refusal Param :=
  (c.param v).map c.letters.applyParam

/-! ### Identifiers and conditions -/

namespace Schema

/-- The column with a name, or the refusal of the name. -/
def knownColumn (s : Schema) (name : String) : Except Refusal Column :=
  match s.column? name with
  | some c => .ok c
  | none => .error (.unknownAttribute (toWireCasing name) s.resource)

/-- The key that an identifier denotes. -/
def readId (s : Schema) (id : String) : Except Refusal Param := do
  let c ← s.knownColumn s.primaryKey
  c.param (.str id)

/-- The parameter of a condition. -/
def bindOne (s : Schema) (cond : Condition) : Except Refusal Param := do
  let c ← s.knownColumn cond.column
  if cond.comparison.textOnly then
    if c.type = .text then pure (.text cond.value)
    else throw (.textOnly cond.comparison.sql c.wireName)
  else c.param (.str cond.value)

/-- The parameters of conditions, in order. -/
def bind (s : Schema) (conds : List Condition) : Except Refusal (List Param) :=
  conds.mapM s.bindOne

/-! ### Records -/

/-- Every name of a record is a column; the first that is none is refused. -/
def checkAttributes (s : Schema) (r : Record) : Except Refusal Unit :=
  match r.keys.find? fun name => (s.column? name).isNone with
  | none => .ok ()
  | some name => .error (.unknownAttribute (toWireCasing name) s.resource)

/-- The required columns that a record leaves out. -/
def missingFrom (s : Schema) (r : Record) : List String := s.required.filter r.isMissing

/-- No required column is left out. -/
def checkRequired (s : Schema) (r : Record) : Except Refusal Unit :=
  match s.missingFrom r with
  | [] => .ok ()
  | names => .error (.missing s.resource (names.map toWireCasing))

/-- A record with one of the values of a new row. -/
def putInitial (today : Date) (r : Record) (i : Initial) : Record :=
  match i.value with
  | .text s => r.insert i.column (.str s)
  | .bool b => r.insert i.column (.bool b)
  | .today => if r.isMissing i.column then r.insert i.column (.str today.iso) else r

/-- A record with the values of a new row. -/
def withInitial (s : Schema) (today : Date) (r : Record) : Record :=
  s.initial.foldl (putInitial today) r

/-- The columns of a record, the primary key left out, with their values in the order of the
schema. -/
def present (s : Schema) (r : Record) : List (Column × Json) :=
  s.columns.filterMap fun c =>
    if c.name = s.primaryKey then none else (r.get? c.name).map fun v => (c, v)

/-- The columns that a record writes, with their parameters, in the order of the schema. -/
def writeValues (s : Schema) (r : Record) : Except Refusal (List (String × Param)) := do
  s.checkAttributes r
  (s.present r).mapM fun (c, v) => do
    let p ← c.written v
    return (c.name, p)

end Schema

end Circulation
