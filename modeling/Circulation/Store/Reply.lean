/-
**What a store answers: rows and counts, or an error.**

Main definitions:

* `StoreError` — an error as the store reports it;
* `Outcome` — the rows of a statement and the number of rows it touched;
* `Failure.ofStore` — what an error of the store means for a request on a resource.

Main results:

* `kind_ofStore` — only a row that refers to a missing one breaks the integrity, every other error
  is a failure of the store.
-/

import Circulation.Failure
import Circulation.Record
import Circulation.Schema.Column

set_option relaxedAutoImplicit false
set_option autoImplicit false

namespace Circulation

/-! ### Errors -/

/-- An error as the store reports it, with its code and the constraint it is about. -/
structure StoreError where
  message : String
  code : Option String
  constraint : Option String
deriving DecidableEq

namespace StoreError

/-- An error that has no code. -/
def plain (message : String) : StoreError := ⟨message, none, none⟩

/-- The code of a row that refers to a row that is not there. -/
def orphanCode : String := "23503"

/-- Whether a row refers to a row that is not there. -/
def isOrphan (e : StoreError) : Bool := e.code == some orphanCode

end StoreError

/-! ### Outcomes -/

/-- What a statement gives: rows under their storage names, and how many rows it touched. -/
structure Outcome where
  rows : List Record
  affected : UInt64

/-- The outcome of a query. -/
def Outcome.ofRows (rows : List Record) : Outcome := ⟨rows, UInt64.ofNat rows.length⟩

/-- The outcome of a command. -/
def Outcome.ofCount (affected : UInt64) : Outcome := ⟨[], affected⟩

/-! ### What an error means -/

/-- The parent that is missing: the one that the constraint names, or any of the resource. -/
def Orphan.ofConstraint (s : Schema) (constraint : Option String) : Orphan :=
  match constraint.bind s.parentOf? with
  | some p => .known p.resource p.wireName
  | none => .oneOf (s.parents.map Parent.wireName)

/-- What an error of the store means for a request on a resource. -/
def Failure.ofStore (s : Schema) (e : StoreError) : Failure :=
  if e.isOrphan then .integrity (.ofConstraint s e.constraint)
  else .persistence (.reported e.message)

/-- **What an error means is decided by its code alone.** -/
theorem kind_ofStore (s : Schema) (e : StoreError) :
    (Failure.ofStore s e).kind = if e.code = some StoreError.orphanCode then .integrity
      else .persistence := by
  unfold Failure.ofStore StoreError.isOrphan
  by_cases h : e.code = some StoreError.orphanCode <;> simp [h, Failure.kind]

end Circulation
