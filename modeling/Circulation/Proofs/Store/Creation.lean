/-
**A creation executes one statement, or nothing at all.**

What a client sends is looked at before a connection is asked for.  Attributes that make no row are
refused then; all others make one statement, and this is all that is ever executed.

Main results:

* `Repository.create_inserts` — **a creation inserts what was sent and what the server decides on,
  and attributes that are not fit do not get as far as a connection**.
-/

import Circulation.Proofs.Request.Statements
import Circulation.Proofs.Schema.Creation
import Circulation.Proofs.Store.Race
import Circulation.Store.Script

set_option relaxedAutoImplicit false
set_option autoImplicit false

namespace Circulation

section Courses

variable {r : Repository} {attributes : Record} {log : List Exchange} {a : Answer Record}

/-- Attributes that are not fit are refused, and the store is asked nothing. -/
theorem CreateCourse.refused_of_not_fit (hs : r.schema ∈ catalogue)
    (h : CreateCourse r attributes log a) (hfit : ¬r.schema.Fit attributes) :
    log = [] ∧ ∃ why, a = .error (.validation why) := by
  have hno : ∀ st, r.schema.creation r.today attributes ≠ .ok st := fun st hst =>
    hfit (Schema.fit_of_creation hs hst)
  cases h with
  | refused h => exact ⟨rfl, _, rfl⟩
  | unavailable h e => exact absurd h (hno _)
  | failed h e x => exact absurd h (hno _)
  | miscounted h rows x => exact absurd h (hno _)
  | uncommitted h rows e => exact absurd h (hno _)
  | answered h rows => exact absurd h (hno _)

/-- With a connection, a statement that there is is executed. -/
theorem CreateCourse.statements_ne_nil {σ : Type} {b : Backend σ} {store store' : σ}
    (h : CreateCourse r attributes log a) {st : Statement}
    (hst : r.schema.creation r.today attributes = .ok st) (hacquire : (b.acquire store).1 = .ok ())
    (hhappen : Happen b log store store') : statementsOf log ≠ [] := by
  cases h with
  | refused h =>
      rw [hst] at h
      cases h
  | unavailable h e =>
      obtain ⟨store₁, hrefused, -⟩ := hhappen
      rw [show b.acquire store = (.error e, store₁) from hrefused] at hacquire
      cases hacquire
  | failed h e x => exact List.cons_ne_nil _ _
  | miscounted h rows x => exact List.cons_ne_nil _ _
  | uncommitted h rows e => exact List.cons_ne_nil _ _
  | answered h rows => exact List.cons_ne_nil _ _

end Courses

/-- **A creation inserts what was sent and what the server decides on, and attributes that are not
fit do not get as far as a connection.**  Attributes that are fit are inserted as soon as there is a
connection, on every day of a year in four digits. -/
theorem Repository.create_inserts {σ : Type} {r : Repository} (hs : r.schema ∈ catalogue)
    (attributes : Record) (b : Backend σ) (store : σ) :
    let run := (r.create attributes).run b store
    (∀ st ∈ run.statements, run.statements = [st] ∧ ∃ columns params,
      r.schema.NewRow r.today (Record.toStorage attributes) columns params ∧
        st = inserting r.schema columns params) ∧
    (¬r.schema.Fit attributes → run.trace = [] ∧ ∃ why, run.answer = .error (.validation why)) ∧
    (r.schema.Fit attributes → 0 ≤ r.today.year → r.today.year ≤ 9999 →
      (b.acquire store).1 = .ok () → run.statements ≠ []) := by
  intro run
  have hcourse := CreateCourse.of_path (Session.path_run b (r.create attributes) store)
  refine ⟨?_, ?_, ?_⟩
  · intro st hst
    rw [Session.statements_run] at hst ⊢
    obtain hnil | ⟨insert, hinsert, hstatements⟩ := hcourse.statements
    · rw [hnil] at hst
      cases hst
    · rw [hstatements] at hst ⊢
      obtain rfl := List.mem_singleton.1 hst
      exact ⟨rfl, Schema.creation_newRow hs hinsert⟩
  · intro hfit
    obtain ⟨hlog, hanswer⟩ := hcourse.refused_of_not_fit hs hfit
    refine ⟨?_, hanswer⟩
    rw [Session.trace_run, hlog]
    rfl
  · intro hfit hlow hhigh hacquire
    obtain ⟨st, hst⟩ := Schema.creation_of_fit hs hfit hlow hhigh
    rw [Session.statements_run]
    exact hcourse.statements_ne_nil hst hacquire (Session.happen_log b (r.create attributes) store)

/-- A loan with a number of its own, a state that the server decides on, and no day. -/
def newLoan : Record :=
  .ofList [("Status", .str "returned"), ("bookId", .str " 7 "), ("borrowDate", .null),
    ("borrowId", .ofInt 8), ("dueDate", .str "31-DEC-24"), ("member_id", .ofInt 9)]

/-- The same loan without the day when the book is due. -/
def endlessLoan : Record := .ofList [("bookId", .ofInt 7), ("memberId", .ofInt 9)]

/-- The loan makes a row; without a day when the book is due there is none. -/
theorem fit_newLoan : borrows.Fit newLoan ∧ ¬borrows.Fit endlessLoan := by
  have hs : borrows ∈ catalogue := by simp [catalogue]
  have hsome : (borrows.creation ⟨2024, 5, 17, by decide⟩ newLoan).toOption.isSome = true := by
    decide +kernel
  constructor
  · cases hcreation : borrows.creation ⟨2024, 5, 17, by decide⟩ newLoan with
    | error why =>
        rw [hcreation] at hsome
        cases hsome
    | ok st => exact Schema.fit_of_creation hs hcreation
  · intro h
    have hmissing := h.required "due_date" (by decide)
    exact absurd hmissing (by decide +kernel)

/-- The loan is inserted without its number, on the day of the creation, and under way; nothing is
asked for the loan that has no end. -/
theorem Repository.create_inserts_newLoan :
    let r : Repository := ⟨borrows, ⟨2024, 5, 17, by decide⟩⟩
    let b := Script.backend (.ofSeconds 5)
    let run := (r.create newLoan).run b .empty
    (borrows.Fit newLoan ∧ (b.acquire .empty).1 = .ok () ∧ run.statements ≠ []) ∧
    (∃ columns params, borrows.NewRow r.today (Record.toStorage newLoan) columns params ∧
      run.statements = [inserting borrows columns params] ∧
      params = [.int 7, .int 9, .date r.today, .date ⟨2024, 12, 31, by decide⟩, .text "ongoing"]) ∧
    ¬borrows.Fit endlessLoan ∧ ((r.create endlessLoan).run b .empty).trace = [] := by
  intro r b run
  have hs : r.schema ∈ catalogue := by simp [r, catalogue]
  have hparams : run.statements.map Statement.params = [[.int 7, .int 9, .date r.today,
      .date ⟨2024, 12, 31, by decide⟩, .text "ongoing"]] := by decide +kernel
  obtain ⟨hinserts, -, hexecutes⟩ := Repository.create_inserts hs newLoan b .empty
  obtain ⟨-, hrefuses, -⟩ := Repository.create_inserts hs endlessLoan b .empty
  have hne : run.statements ≠ [] := hexecutes fit_newLoan.1 (by decide) (by decide) rfl
  obtain ⟨st, hst⟩ := List.exists_mem_of_ne_nil _ hne
  obtain ⟨hstatements, columns, params, hrow, rfl⟩ := hinserts st hst
  refine ⟨⟨fit_newLoan.1, rfl, hne⟩, ⟨columns, params, hrow, hstatements, ?_⟩, fit_newLoan.2,
    (hrefuses fit_newLoan.2).1⟩
  rw [show run.statements = [inserting borrows columns params] from hstatements] at hparams
  exact List.singleton_injective hparams

end Circulation
