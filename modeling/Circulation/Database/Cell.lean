/-
**Cells: the values of columns as a database server sends them.**

A cell has the type of its column.  Most types have a JSON form; a value of any other type cannot be
read, unless it is null.

Main definitions:

* `Cell` — a value with its type;
* `Cell.toJson?` — its JSON form;
* `readRow?` — a row as a record; of columns with one name the last counts.
-/

import Circulation.Calendar.Moment
import Circulation.Record

set_option relaxedAutoImplicit false
set_option autoImplicit false

namespace Circulation

open Decimal

/-- A value of a column; a real number that is none is not a number. -/
inductive Cell where
  | null
  | bool (b : Bool)
  | int (i : Int64)
  /-- A number of single precision. -/
  | single (x : Option Double)
  | double (x : Option Double)
  | text (s : String)
  | date (d : Date)
  /-- A moment without a zone. -/
  | zoneless (m : Moment)
  /-- A moment of universal time. -/
  | universal (m : Moment)
  /-- A value of any other type. -/
  | unknown

namespace Cell

/-- The JSON form of a real number; what is not a number is null. -/
def ofReal (x : Option Double) : Json := x.elim .null fun x => .num (.real x)

/-- The JSON form of a value, if it has one. -/
def toJson? : Cell → Option Json
  | null => some .null
  | bool b => some (.bool b)
  | int i => some (.ofInt i.toInt)
  | single x => some (ofReal (x.bind Double.toSingle))
  | double x => some (ofReal x)
  | text s => some (.str s)
  | date d => some (.str d.iso)
  | zoneless m => some (.str m.zoneless)
  | universal m => some (.str m.universal)
  | unknown => none

end Cell

/-- A row as a record, if all its values can be read. -/
def readRow? (row : List (String × Cell)) : Option Record :=
  (row.mapM fun (e : String × Cell) => e.2.toJson?.map fun v => (e.1, v)).map Dict.ofList

end Circulation
