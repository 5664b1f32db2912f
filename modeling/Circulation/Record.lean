/-
**Records: one row of a resource as a dictionary of JSON values.**

In storage the names of a record have the storage spelling; what callers hand in and get back has
the wire spelling.  A record is respelled as a whole.

Main definitions:

* `Record` — a dictionary from names to values;
* `Record.isMissing` — whether a name has no value or a null one;
* `Record.toStorage`, `Record.toWire` — a record under the other spelling;
* `Record.merge` — a record with changes put over it.
-/

import Circulation.Casing
import Circulation.Json.Value

set_option relaxedAutoImplicit false
set_option autoImplicit false

namespace Circulation

/-- One row of a resource. -/
abbrev Record := Dict Json

namespace Record

/-- Whether a name has no value, or a null one. -/
def isMissing (r : Record) (name : String) : Bool :=
  match r.get? name with
  | none => true
  | some v => v.isNull

/-- The value under a name; a name without a value has a null one. -/
def valueOf (r : Record) (name : String) : Json := (r.get? name).getD .null

/-- The record with its names in the storage spelling. -/
def toStorage (r : Record) : Record := r.mapKeys toStorageCasing

/-- The record with its names in the wire spelling. -/
def toWire (r : Record) : Record := r.mapKeys toWireCasing

/-- The record with changes put over it. -/
def merge (r changes : Record) : Record := r.union changes

/-- A value that is not null is not missing. -/
theorem isMissing_eq_false_iff (r : Record) (name : String) :
    r.isMissing name = false ↔ ∃ v, r.get? name = some v ∧ v.isNull = false := by
  cases h : r.get? name <;> simp [isMissing, h]

end Record

end Circulation
