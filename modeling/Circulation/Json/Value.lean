/-
**JSON values.**

A number is an integer of machine size or a finite number of double precision; the two never
compare equal, so `1` and `1.0` are different values.  The fields of an object are listed by name,
each name once.

Main definitions:

* `Number`, `Json` — numbers and values;
* `Json.ofDict`, `Json.fields?` — objects and dictionaries;
* `Number.toInt64?` — the integer that a number is, if it fits a signed word.
-/

import Circulation.Decimal.Binary
import Circulation.Dict
import Circulation.Text.Numeral

set_option relaxedAutoImplicit false
set_option autoImplicit false

namespace Circulation

/-- A number of a document. -/
inductive Number where
  | int (i : Int)
  | real (x : Decimal.Double)
deriving DecidableEq

/-- A JSON value; the fields of an object stand in the order of their names. -/
inductive Json where
  | null
  | bool (b : Bool)
  | num (n : Number)
  | str (s : String)
  | arr (items : List Json)
  | obj (fields : List (String × Json))

instance : Inhabited Json := ⟨.null⟩

/-- The integer that a number is, if it fits a signed word. -/
def Number.toInt64? : Number → Option Int64
  | .int i => if Text.fitsInt64 i then some (Int64.ofInt i) else none
  | .real _ => none

namespace Json

/-- The object with the entries of a dictionary. -/
def ofDict (d : Dict Json) : Json := .obj d.toList

/-- The object with some fields. -/
def object (fields : List (String × Json)) : Json := ofDict (.ofList fields)

/-- The dictionary of an object. -/
def fields? : Json → Option (Dict Json)
  | .obj fields => some (Dict.ofList fields)
  | _ => none

/-- Whether a value is null. -/
def isNull : Json → Bool
  | .null => true
  | _ => false

/-- An integer value. -/
def ofInt (i : Int) : Json := .num (.int i)

end Json

end Circulation
