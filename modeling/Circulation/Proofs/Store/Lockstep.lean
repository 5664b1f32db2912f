/-
**Two stores in lockstep: what a session cannot tell apart.**

Two stores go in lockstep when they answer alike whatever they are asked, one question after the
other.  Where they succeed they give the same; where they fail, the errors may differ in what a
relation leaves open.  What a rollback comes to is left open altogether, for no session sees it.  A
session that does not look at what is left open runs in the same way on both stores.

Main definitions:

* `SameUpTo` — two answers that differ in what is left open of errors;
* `Backend.Lockstep` — two stores that answer alike and stay alike;
* `Session.Matches` — two sessions that ask for the same, as long as the answers are alike;
* `Script.SameButRollback` — two scripts that differ in what rollbacks come to.

Main results:

* `Session.Matches.run` — **sessions that match run alike on stores in lockstep**;
* `Session.run_sameButRollback` — what rollbacks come to changes neither the answer of a session nor
  what it executes.
-/

import Circulation.Proofs.Store.Path
import Circulation.Store.Script

set_option relaxedAutoImplicit false
set_option autoImplicit false

namespace Circulation

variable {α β σ τ : Type} {E : StoreError → StoreError → Prop}

/-! ### Answers that are alike -/

/-- Two answers of a store: one success, or two errors that are related. -/
inductive SameUpTo (E : StoreError → StoreError → Prop) :
    Except StoreError α → Except StoreError α → Prop
  | ok (a : α) : SameUpTo E (.ok a) (.ok a)
  | error {e e' : StoreError} (h : E e e') : SameUpTo E (.error e) (.error e')

namespace SameUpTo

theorem refl (h : ∀ e, E e e) (r : Except StoreError α) : SameUpTo E r r := by
  cases r with
  | ok a => exact ok a
  | error e => exact error (h e)

/-- Answers that are the same up to equality are the same. -/
theorem eq {r r' : Except StoreError α} (h : SameUpTo Eq r r') : r = r' := by
  cases h with
  | ok a => rfl
  | error h => rw [h]

end SameUpTo

/-! ### Stores that answer alike -/

/-- Two stores in lockstep: in states that are related they answer alike, and the states behind the
answers are related again.  What a rollback comes to is left open. -/
structure Backend.Lockstep (E : StoreError → StoreError → Prop) (b : Backend σ) (c : Backend τ)
    (R : σ → τ → Prop) : Prop where
  acquire {x : σ} {y : τ} (h : R x y) :
    SameUpTo E (b.acquire x).1 (c.acquire y).1 ∧ R (b.acquire x).2 (c.acquire y).2
  execute (st : Statement) {x : σ} {y : τ} (h : R x y) :
    SameUpTo E (b.execute st x).1 (c.execute st y).1 ∧ R (b.execute st x).2 (c.execute st y).2
  commit {x : σ} {y : τ} (h : R x y) :
    SameUpTo E (b.commit x).1 (c.commit y).1 ∧ R (b.commit x).2 (c.commit y).2
  rollback {x : σ} {y : τ} (h : R x y) : R (b.rollback x).2 (c.rollback y).2

/-! ### Runs that are alike -/

/-- Two runs that execute the same, with answers and stores that are related. -/
structure Run.Alike (A : α → β → Prop) (R : σ → τ → Prop) (r : Run α σ) (r' : Run β τ) : Prop where
  answer : A r.answer r'.answer
  store : R r.store r'.store
  statements : r.statements = r'.statements

theorem Run.statements_after (events : List Event) (r : Run α σ) :
    (r.after events).statements = events.filterMap Event.statement? ++ r.statements :=
  List.filterMap_append

/-- Runs stay alike behind events that execute the same. -/
theorem Run.Alike.after {A : α → β → Prop} {R : σ → τ → Prop} {r : Run α σ} {r' : Run β τ}
    (h : r.Alike A R r') {events events' : List Event}
    (hevents : events.filterMap Event.statement? = events'.filterMap Event.statement?) :
    (r.after events).Alike A R (r'.after events') := by
  refine ⟨h.answer, h.store, ?_⟩
  rw [Run.statements_after, Run.statements_after, hevents, h.statements]

/-! ### Sessions that match -/

namespace Session

/-- Two sessions that ask a store for the same and end with related answers, as long as what they
are told is the same up to a relation of errors. -/
inductive Matches (E : StoreError → StoreError → Prop) (A : α → β → Prop) :
    {held : Bool} → Session α held → Session β held → Prop
  | done {a : α} {b : β} (h : A a b) : Matches E A (.done a) (.done b)
  | acquire {refused : StoreError → Session α false} {refused' : StoreError → Session β false}
      {acquired : Session α true} {acquired' : Session β true}
      (hrefused : ∀ {e e'}, E e e' → Matches E A (refused e) (refused' e'))
      (hacquired : Matches E A acquired acquired') :
      Matches E A (.acquire refused acquired) (.acquire refused' acquired')
  | execute (st : Statement) {next : Except StoreError Outcome → Session α true}
      {next' : Except StoreError Outcome → Session β true}
      (h : ∀ {r r'}, SameUpTo E r r' → Matches E A (next r) (next' r')) :
      Matches E A (.execute st next) (.execute st next')
  | commit {next : Except StoreError Unit → Session α false}
      {next' : Except StoreError Unit → Session β false}
      (h : ∀ {r r'}, SameUpTo E r r' → Matches E A (next r) (next' r')) :
      Matches E A (.commit next) (.commit next')
  | rollback {next : Session α false} {next' : Session β false} (h : Matches E A next next') :
      Matches E A (.rollback next) (.rollback next')

/-- **Sessions that match run alike on stores in lockstep.** -/
theorem Matches.run {A : α → β → Prop} {held : Bool} {s : Session α held} {s' : Session β held}
    (h : Matches E A s s') {b : Backend σ} {c : Backend τ} {R : σ → τ → Prop}
    (hstep : b.Lockstep E c R) {x : σ} {y : τ} (hxy : R x y) :
    (s.run b x).Alike A R (s'.run c y) := by
  -- both sessions ask for the same, so each question is one step of both stores
  induction h generalizing x y with
  | done h => exact ⟨h, hxy, rfl⟩
  | acquire hrefused hacquired ihr iha =>
      obtain ⟨hanswer, hstores⟩ := hstep.acquire hxy
      rcases hb : b.acquire x with ⟨answer, x'⟩
      rcases hc : c.acquire y with ⟨answer', y'⟩
      rw [hb, hc] at hanswer hstores
      simp only [Session.run, hb, hc]
      cases hanswer with
      | ok u => exact (iha hstores).after rfl
      | error he => exact (ihr he hstores).after rfl
  | execute st h ih =>
      obtain ⟨hanswer, hstores⟩ := hstep.execute st hxy
      exact (ih hanswer hstores).after rfl
  | commit h ih =>
      obtain ⟨hanswer, hstores⟩ := hstep.commit hxy
      -- nothing is executed at the end of a transaction, whatever it comes to
      have hend (r : Except StoreError Unit) :
          (ending .commit .committed r).filterMap Event.statement? = [] :=
        filterMap_statement?_events (.commit r)
      exact (ih hanswer hstores).after ((hend _).trans (hend _).symm)
  | rollback h ih =>
      have hend (r : Except StoreError Unit) :
          (ending .rollback .rolledBack r).filterMap Event.statement? = [] :=
        filterMap_statement?_events (.rollback r)
      exact (ih (hstep.rollback hxy)).after ((hend _).trans (hend _).symm)

/-- What follows sessions that match, and matches for related answers, matches. -/
theorem Matches.map {γ δ : Type} {A : α → β → Prop} {B : γ → δ → Prop} {held : Bool}
    {s : Session α held} {s' : Session β held} (h : Matches E A s s') {f : α → γ} {g : β → δ}
    (hfg : ∀ {a b}, A a b → B (f a) (g b)) : Matches E B (s.map f) (s'.map g) := by
  induction h with
  | done h => exact Matches.done (hfg h)
  | acquire hrefused hacquired ihr iha => exact Matches.acquire ihr iha
  | execute st h ih => exact Matches.execute st ih
  | commit h ih => exact Matches.commit ih
  | rollback h ih => exact Matches.rollback ih

/-- A session that is told the same goes on in the same way. -/
theorem matches_self {held : Bool} (s : Session α held) : Matches Eq Eq s s := by
  induction s with
  | done a => exact Matches.done rfl
  | acquire refused acquired ihr iha =>
      refine Matches.acquire (fun {e e'} he => ?_) iha
      obtain rfl : e = e' := he
      exact ihr e
  | execute st next ih =>
      refine Matches.execute st fun {r r'} hr => ?_
      obtain rfl : r = r' := hr.eq
      exact ih r
  | commit next ih =>
      refine Matches.commit fun {r r'} hr => ?_
      obtain rfl : r = r' := hr.eq
      exact ih r
  | rollback next ih => exact Matches.rollback ih

end Session

/-! ### Scripts -/

/-- Two scripts that differ in nothing but what rollbacks come to, and how long they take. -/
def Script.SameButRollback (script script' : Script) : Prop :=
  script.acquire = script'.acquire ∧ script.replies = script'.replies ∧
    script.commit = script'.commit

/-- Whatever rollbacks come to, scripts that are the same otherwise go in lockstep. -/
theorem Script.lockstep_sameButRollback (limit : Duration) :
    (Script.backend limit).Lockstep Eq (Script.backend limit) SameButRollback where
  acquire := by
    rintro ⟨as, rs, cs, bs⟩ ⟨_, _, _, bs'⟩ ⟨rfl, rfl, rfl⟩
    exact ⟨SameUpTo.refl (fun _ => rfl) _, rfl, rfl, rfl⟩
  execute := by
    rintro st ⟨as, rs, cs, bs⟩ ⟨_, _, _, bs'⟩ ⟨rfl, rfl, rfl⟩
    exact ⟨SameUpTo.refl (fun _ => rfl) _, rfl, rfl, rfl⟩
  commit := by
    rintro ⟨as, rs, cs, bs⟩ ⟨_, _, _, bs'⟩ ⟨rfl, rfl, rfl⟩
    exact ⟨SameUpTo.refl (fun _ => rfl) _, rfl, rfl, rfl⟩
  rollback := by
    rintro ⟨as, rs, cs, bs⟩ ⟨_, _, _, bs'⟩ ⟨rfl, rfl, rfl⟩
    exact ⟨rfl, rfl, rfl⟩

/-- **What rollbacks come to changes neither the answer of a session nor what it executes.** -/
theorem Session.run_sameButRollback {held : Bool} (s : Session α held) (limit : Duration)
    {script script' : Script} (h : script.SameButRollback script') :
    (s.run (Script.backend limit) script).answer = (s.run (Script.backend limit) script').answer ∧
      (s.run (Script.backend limit) script).statements =
        (s.run (Script.backend limit) script').statements := by
  have hrun := s.matches_self.run (Script.lockstep_sameButRollback limit) h
  exact ⟨hrun.answer, hrun.statements⟩

end Circulation
