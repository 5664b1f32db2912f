/-
**Operators of filters.**

A token that is no operator of its own is kept as it was written.  Whether it may stand in SQL is
decided later: eight operators of the store are let through, in any letter case and with any blanks
between their words.

Main definitions:

* `Builtin` — the operators with a token of their own;
* `Operator`, `Operator.ofToken` — an operator of a filter;
* `PassThrough`, `PassThrough.ofToken?` — the operators of the store that are let through;
* `Comparison` — an operator as it may stand in SQL;
* `Comparison.sql` — its spelling there.
-/

import Circulation.Text.Blank
import Circulation.Text.Case
import Circulation.Text.Cut

set_option relaxedAutoImplicit false
set_option autoImplicit false

namespace Circulation

namespace Filter

/-! ### Operators with a token of their own -/

/-- The operators with a token of their own. -/
inductive Builtin where
  | eq
  | gt
  | gte
  | lt
  | lte
  | neq
  | like
deriving DecidableEq

/-- The spelling of an operator in SQL. -/
def Builtin.sql : Builtin → String
  | .eq => "="
  | .gt => ">"
  | .gte => ">="
  | .lt => "<"
  | .lte => "<="
  | .neq => "!="
  | .like => "LIKE"

/-- An operator of a filter: one with a token of its own, or a token as it was written. -/
inductive Operator where
  | builtin (b : Builtin)
  | raw (token : String)
deriving DecidableEq

/-- The tokens and their operators. -/
def tokens : List (String × Builtin) :=
  [("gt", .gt), ("gte", .gte), ("lt", .lt), ("lte", .lte), ("neq", .neq), ("fuzzy", .like),
    ("like", .like)]

/-- The operator of a token. -/
def Operator.ofToken (token : String) : Operator :=
  match tokens.find? fun t => t.1 == token with
  | some t => .builtin t.2
  | none => .raw token

/-- The spelling of an operator. -/
def Operator.sql : Operator → String
  | .builtin b => b.sql
  | .raw token => token

/-! ### Operators of the store -/

/-- The operators of the store that are let through. -/
inductive PassThrough where
  | ilike
  | notLike
  | notIlike
  | unequal
  | matching
  | matchingAnyCase
  | notMatching
  | notMatchingAnyCase
deriving DecidableEq

namespace PassThrough

/-- All of them. -/
def all : List PassThrough :=
  [.ilike, .notLike, .notIlike, .unequal, .matching, .matchingAnyCase, .notMatching,
    .notMatchingAnyCase]

/-- The spelling of an operator in SQL. -/
def sql : PassThrough → String
  | ilike => "ILIKE"
  | notLike => "NOT LIKE"
  | notIlike => "NOT ILIKE"
  | unequal => "<>"
  | matching => "~"
  | matchingAnyCase => "~*"
  | notMatching => "!~"
  | notMatchingAnyCase => "!~*"

/-- A token with one blank between its words and all ASCII letters as capitals. -/
def normalize (token : String) : String :=
  Text.asciiUpper (Text.joinWith " " ((Text.words token.toList).map String.ofList))

/-- The operator that a token spells. -/
def ofToken? (token : String) : Option PassThrough := all.find? fun p => p.sql == normalize token

/-- A token spells an operator exactly when it is normalized to the spelling of the operator. -/
theorem ofToken?_eq_some_iff (token : String) (p : PassThrough) :
    ofToken? token = some p ↔ normalize token = p.sql := by
  constructor
  · intro h
    have hp := List.find?_some h
    simpa using (beq_iff_eq.1 hp).symm
  · intro h
    unfold ofToken?
    rw [h]
    cases p <;> decide

end PassThrough

/-! ### Operators in SQL -/

/-- An operator as it may stand in SQL. -/
inductive Comparison where
  | builtin (b : Builtin)
  | passThrough (p : PassThrough)
deriving DecidableEq

namespace Comparison

/-- The spelling of an operator in SQL. -/
def sql : Comparison → String
  | builtin b => b.sql
  | passThrough p => p.sql

/-- Whether the operator compares texts only. -/
def textOnly : Comparison → Bool
  | builtin .like => true
  | builtin _ => false
  | passThrough _ => true

/-- The value that the operator is given: the store looks for the value inside a text. -/
def bound (c : Comparison) (value : String) : String :=
  if c = builtin .like then "%" ++ value ++ "%" else value

end Comparison

/-- The operator as it may stand in SQL, if it may. -/
def Operator.comparison? : Operator → Option Comparison
  | .builtin b => some (.builtin b)
  | .raw token => (PassThrough.ofToken? token).map .passThrough

end Filter

end Circulation
