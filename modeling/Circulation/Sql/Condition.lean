/-
**Conditions: filters the way a statement makes them.**

A filter becomes a condition on a column if its name spells a column and its operator is let
through.  The conditions of a statement stand in the order of the names of their filters, and their
placeholders are numbered in this order.

Main definitions:

* `Condition` — a column, a comparison and the value it is given;
* `Condition.ofFilter` — the condition of a filter;
* `conditionsOf` — the conditions of all filters, or the first refusal;
* `whereSql` — the text of the conditions.
-/

import Circulation.Casing
import Circulation.Failure
import Circulation.Filter.Query

set_option relaxedAutoImplicit false
set_option autoImplicit false

namespace Circulation

/-! ### Names of columns -/

/-- Whether a text can be the name of a column: a small ASCII letter, then small letters, digits and
underscores. -/
def isColumnName (name : String) : Bool :=
  match name.toList with
  | [] => false
  | c :: cs => c.isLower && cs.all fun d => d.isLower || d.isDigit || d == '_'

/-! ### One condition -/

/-- A comparison of a column with a value. -/
structure Condition where
  column : String
  comparison : Filter.Comparison
  /-- The value that the comparison is given. -/
  value : String
deriving DecidableEq

namespace Condition

/-- The condition of the filter on a name. -/
def ofFilter (name : String) (d : Filter.Descriptor) : Except Refusal Condition :=
  let column := toStorageCasing name
  if isColumnName column then
    match d.op.comparison? with
    | some comparison => .ok ⟨column, comparison, comparison.bound d.value⟩
    | none => .error (.filterOperator d.op.sql name)
  else .error (.filterName name)

/-- The text of a condition with the number of its placeholder. -/
def sql (c : Condition) (index : Nat) : String :=
  c.column ++ " " ++ c.comparison.sql ++ " $" ++ index.repr

end Condition

/-! ### All conditions -/

/-- The conditions of all filters, in the order of their names. -/
def conditionsOf (filters : Dict Filter.Descriptor) : Except Refusal (List Condition) :=
  filters.toList.mapM fun e => Condition.ofFilter e.1 e.2

/-- The texts of conditions whose placeholders are numbered from `index` on. -/
def conditionTexts (index : Nat) : List Condition → List String
  | [] => []
  | c :: cs => c.sql index :: conditionTexts (index + 1) cs

/-- The text of all conditions, empty if there are none. -/
def whereSql (cs : List Condition) : String :=
  match cs with
  | [] => ""
  | c :: cs => "WHERE " ++ Text.joinWith " AND " (conditionTexts 1 (c :: cs))

/-- The first placeholder behind the conditions. -/
def nextPlaceholder (cs : List Condition) : Nat := cs.length + 1

end Circulation
