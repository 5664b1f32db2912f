/-
**Sessions: programs that work on a store.**

A session asks for a connection, executes statements, and ends the transaction with a commit or a
rollback, which gives the connection back.  Its type tells whether it holds a connection, so no
session executes a statement without one, commits what it has rolled back, or keeps a connection for
good.  What a rollback came to is nothing that a session can see.

A session is data.  A backend runs it: a script of outcomes, a database server, a model of a table.
The trace of a run lists what happened to connections in order.

Main definitions:

* `Session` — programs, indexed by whether they hold a connection;
* `Session.bind`, `Session.map` — going on after a session;
* `Backend` — what can be asked of a store;
* `Session.run`, `Run`, `Event` — running a session, its result, and what its trace lists.

Main results:

* `run_bind` — a session and what goes on after it run one after the other.
-/

import Circulation.Sql.Statement
import Circulation.Store.Reply

set_option relaxedAutoImplicit false
set_option autoImplicit false

namespace Circulation

/-! ### Sessions -/

/-- A program that works on a store and ends with an answer; `held` tells whether it holds a
connection at the moment. -/
inductive Session (α : Type) : (held : Bool) → Type where
  /-- End with an answer. -/
  | done (answer : α) : Session α false
  /-- Ask for a connection in an open transaction. -/
  | acquire (refused : StoreError → Session α false) (acquired : Session α true) :
      Session α false
  /-- Execute a statement. -/
  | execute (s : Statement) (next : Except StoreError Outcome → Session α true) : Session α true
  /-- Commit and give the connection back. -/
  | commit (next : Except StoreError Unit → Session α false) : Session α true
  /-- Roll back and give the connection back. -/
  | rollback (next : Session α false) : Session α true

namespace Session

variable {α β : Type}

/-- Go on after a session. -/
def bind {held : Bool} : Session α held → (α → Session β false) → Session β held
  | .done a, f => f a
  | .acquire refused acquired, f => .acquire (fun e => (refused e).bind f) (acquired.bind f)
  | .execute s next, f => .execute s fun r => (next r).bind f
  | .commit next, f => .commit fun r => (next r).bind f
  | .rollback next, f => .rollback (next.bind f)

/-- Change the answer of a session. -/
def map {held : Bool} (f : α → β) (s : Session α held) : Session β held :=
  s.bind fun a => .done (f a)

end Session

/-! ### Running a session -/

/-- What can be asked of a store whose states are `σ`. -/
structure Backend (σ : Type) where
  acquire : σ → Except StoreError Unit × σ
  execute : Statement → σ → Except StoreError Outcome × σ
  commit : σ → Except StoreError Unit × σ
  rollback : σ → Except StoreError Unit × σ

/-- What happens to connections. -/
inductive Event where
  /-- A connection was handed out. -/
  | acquired
  /-- No connection was handed out. -/
  | refused
  /-- A statement was started. -/
  | executed (s : Statement)
  /-- A commit was started. -/
  | commit
  /-- It succeeded. -/
  | committed
  /-- A rollback was started. -/
  | rollback
  /-- It succeeded. -/
  | rolledBack
  /-- A connection was given back. -/
  | released
deriving DecidableEq

/-- The result of a run: the answer, the state of the store, and what happened. -/
structure Run (α σ : Type) where
  answer : α
  store : σ
  trace : List Event

/-- The run with something in front of its trace. -/
def Run.after {α σ : Type} (events : List Event) (r : Run α σ) : Run α σ :=
  { r with trace := events ++ r.trace }

theorem Run.after_after {α σ : Type} (es fs : List Event) (r : Run α σ) :
    (r.after fs).after es = r.after (es ++ fs) := by
  simp [Run.after]

/-- What the end of a transaction adds to a trace. -/
def ending (started succeeded : Event) (result : Except StoreError Unit) : List Event :=
  match result with
  | .ok () => [started, succeeded, .released]
  | .error _ => [started, .released]

namespace Session

variable {α β σ : Type}

/-- Run a session on a store. -/
def run (b : Backend σ) {held : Bool} : Session α held → σ → Run α σ
  | .done a, store => ⟨a, store, []⟩
  | .acquire refused acquired, store =>
      match b.acquire store with
      | (.ok (), store) => (acquired.run b store).after [.acquired]
      | (.error e, store) => ((refused e).run b store).after [.refused]
  | .execute s next, store =>
      let r := b.execute s store
      ((next r.1).run b r.2).after [.executed s]
  | .commit next, store =>
      let r := b.commit store
      ((next r.1).run b r.2).after (ending .commit .committed r.1)
  | .rollback next, store =>
      let r := b.rollback store
      (next.run b r.2).after (ending .rollback .rolledBack r.1)

@[simp] theorem run_done (b : Backend σ) (a : α) (store : σ) :
    (done a).run b store = ⟨a, store, []⟩ := rfl

/-- **Going on after a session runs one after the other.** -/
theorem run_bind {held : Bool} (b : Backend σ) (s : Session α held) (f : α → Session β false)
    (store : σ) :
    (s.bind f).run b store =
      ((f (s.run b store).answer).run b (s.run b store).store).after (s.run b store).trace := by
  induction s generalizing store with
  | done a => rfl
  | acquire refused acquired ihr iha =>
      simp only [bind, run]
      split
      · rw [iha, Run.after_after]
        rfl
      · rw [ihr, Run.after_after]
        rfl
  | execute s next ih =>
      simp only [bind, run, ih, Run.after_after]
      rfl
  | commit next ih =>
      simp only [bind, run, ih, Run.after_after]
      rfl
  | rollback next ih =>
      simp only [bind, run, ih, Run.after_after]
      rfl

/-- A changed answer changes nothing else. -/
theorem run_map {held : Bool} (b : Backend σ) (f : α → β) (s : Session α held) (store : σ) :
    (s.map f).run b store =
      ⟨f (s.run b store).answer, (s.run b store).store, (s.run b store).trace⟩ := by
  simp [map, run_bind, Run.after]

end Session

end Circulation
