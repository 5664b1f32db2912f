/-
**Parameters of statements.**

Values never stand in the text of a statement.  A numbered placeholder stands there, and the value
goes to the store beside the text with its type.

Main definitions:

* `Param` — a typed value;
* `Param.literal` — the value the way SQL writes it, for display.
-/

import Circulation.Calendar.Date
import Circulation.Json.Printer
import Circulation.Schema.Column

set_option relaxedAutoImplicit false
set_option autoImplicit false

namespace Circulation

/-- A typed value of a statement; a missing value has a type as well. -/
inductive Param where
  | null (type : ColumnType)
  | text (s : String)
  | int (i : Int64)
  | bool (b : Bool)
  | date (d : Date)
deriving DecidableEq

namespace Param

/-- A text between single quotes, with every such quote inside written twice. -/
def quotedChars (cs : List Char) : List Char :=
  '\'' :: cs.flatMap (fun c => if c = '\'' then ['\'', '\''] else [c]) ++ ['\'']

/-- The characters of a value in SQL. -/
def literalChars : Param → List Char
  | null _ => "NULL".toList
  | text s => quotedChars s.toList
  | int i => intChars i.toInt
  | bool true => "TRUE".toList
  | bool false => "FALSE".toList
  | date d => quotedChars d.isoChars

/-- A value the way SQL writes it. -/
def literal (p : Param) : String := String.ofList p.literalChars

end Param

end Circulation
