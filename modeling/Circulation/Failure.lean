/-
**What can go wrong with a request.**

A failure is told by its cause.  The words for it, its kind, and what stands in front of the words
are derived from the cause in one place.

Main definitions:

* `Refusal` — what is wrong with a request before anything is done;
* `Orphan` — a row that refers to a row that is not there;
* `Breakdown` — what went wrong in the store;
* `Failure` — any of these, or rows that contradict a schema;
* `Failure.kind`, `Failure.detail`, `Failure.message` — its kind and its words.
-/

import Circulation.Calendar.Literal
import Circulation.Json.Printer
import Circulation.Text.Cut

set_option relaxedAutoImplicit false
set_option autoImplicit false

namespace Circulation

/-! ### Causes -/

/-- What is wrong with a request. -/
inductive Refusal where
  /-- A token is no date. -/
  | date (fault : Calendar.DateFault)
  /-- The name of a filter spells no column. -/
  | filterName (name : String)
  /-- A filter has an operator that is not let through. -/
  | filterOperator (token name : String)
  | unknownAttribute (name resource : String)
  /-- An operator on texts stands at an attribute that is none. -/
  | textOnly (operator name : String)
  | badValue (value : Json) (name : String)
  | missing (resource : String) (names : List String)
  | nothingToUpdate (resource : String)
  | nothingToInsert (resource : String)

/-- A row refers to a row that is not there. -/
inductive Orphan where
  /-- The constraint tells which one. -/
  | known (resource name : String)
  /-- It may be any of these. -/
  | oneOf (names : List String)
deriving DecidableEq

/-- What went wrong in the store. -/
inductive Breakdown where
  /-- There was no connection to be had. -/
  | unavailable (message : String)
  /-- The store reported an error. -/
  | reported (message : String)
  /-- A count came without a number. -/
  | noTotal
  /-- An update hit another number of rows than one. -/
  | updated (resource : String) (affected : UInt64)
  /-- An insertion gave back another number of rows than one. -/
  | inserted (resource : String) (rows : Nat)
  /-- A row was there for the update and gone after it. -/
  | disappeared (resource id : String)
deriving DecidableEq

/-- Why a request has no answer. -/
inductive Failure where
  | validation (cause : Refusal)
  | integrity (cause : Orphan)
  | persistence (cause : Breakdown)
  /-- One identifier belongs to several rows. -/
  | consistency (resource : String) (rows : Nat)

/-! ### Kinds -/

/-- The kinds of failures. -/
inductive FailureKind where
  | validation
  | integrity
  | persistence
  | consistency
deriving DecidableEq

/-- The kind of a failure. -/
def Failure.kind : Failure → FailureKind
  | .validation _ => .validation
  | .integrity _ => .integrity
  | .persistence _ => .persistence
  | .consistency .. => .consistency

/-- What is said of a kind. -/
def FailureKind.heading : FailureKind → String
  | .validation => "Validation failed"
  | .integrity => "Integrity constraint violated"
  | .persistence => "Persistence failure"
  | .consistency => "Consistency error"

/-! ### Words -/

/-- What is said about a request that is refused. -/
def Refusal.message : Refusal → String
  | .date fault => fault.message
  | .filterName name => s!"invalid filter field '{name}'"
  | .filterOperator token name => s!"unsupported filter operator '{token}' on '{name}'"
  | .unknownAttribute name resource => s!"unknown attribute '{name}' for {resource}"
  | .textOnly operator name =>
      s!"operator '{operator}' is only supported on text attributes, not '{name}'"
  | .badValue value name => s!"invalid value {value.compact} for attribute '{name}'"
  | .missing resource names =>
      s!"missing required attribute(s) for {resource}: " ++ Text.joinWith ", " names
  | .nothingToUpdate resource => s!"nothing to update for {resource}"
  | .nothingToInsert resource => s!"no attributes supplied for new {resource}"

/-- What is said about a row without its parent. -/
def Orphan.message : Orphan → String
  | .known resource name =>
      s!"parent key not found: referenced {resource} does not exist ({name})"
  | .oneOf [] => "parent key not found"
  | .oneOf (a :: as) =>
      "parent key not found: ensure " ++ Text.joinWith " and " (a :: as) ++ " exist"

/-- What is said about a store that failed. -/
def Breakdown.message : Breakdown → String
  | .unavailable message => s!"connection unavailable: {message}"
  | .reported message => message
  | .noTotal => "count query returned no total"
  | .updated resource affected =>
      s!"expected to update one {resource} but {affected.toNat} rows were affected"
  | .inserted resource rows => s!"expected one inserted {resource} but got {rows} rows"
  | .disappeared resource id => s!"{resource} '{id}' disappeared after update"

/-- What is said about a failure, without its kind. -/
def Failure.detail : Failure → String
  | .validation cause => cause.message
  | .integrity cause => cause.message
  | .persistence cause => cause.message
  | .consistency resource rows =>
      s!"expected a single {resource} but got {rows} rows for one identifier"

/-- What is said about a failure. -/
def Failure.message (f : Failure) : String := f.kind.heading ++ ": " ++ f.detail

end Circulation
