/-
**Transactions by hand: one step at a time.**

Who works by hand holds at most one connection.  To begin while one is held asks for another one
first and gives the old one back after that; to commit, to roll back and to abandon give it back.

Main definitions:

* `TransactionStep` — what can be done;
* `Handle` — a store, and whether a connection to it is held;
* `Handle.step` — doing it.

Main result: `balance_step` — connections handed out and given back match what is held.
-/

import Circulation.Store.Session

set_option relaxedAutoImplicit false
set_option autoImplicit false

namespace Circulation

/-- What can be done with a transaction. -/
inductive TransactionStep where
  | start
  | execute (s : Statement)
  | commit
  | rollback
  /-- Give the connection back without an end. -/
  | abandon
deriving DecidableEq

/-- A store, and whether a connection to it is held. -/
structure Handle (σ : Type) where
  store : σ
  held : Bool

namespace Handle

variable {σ : Type}

/-- What a step comes to without a connection. -/
def notHeld : StoreError := .plain "transaction already finished"

/-- What is given back when no connection shall be held any more. -/
def releases (held : Bool) : List Event := if held then [.released] else []

/-- What a step comes to, with what happened to connections.  Only executing a statement has an
outcome, and what a rollback comes to is not told. -/
def step (b : Backend σ) (h : Handle σ) :
    TransactionStep → Except StoreError (Option Outcome) × List Event × Handle σ
  | .start =>
      match b.acquire h.store with
      | (.ok (), store) => (.ok none, .acquired :: releases h.held, ⟨store, true⟩)
      | (.error e, store) => (.error e, [.refused], ⟨store, h.held⟩)
  | .execute s =>
      if h.held then
        let r := b.execute s h.store
        (r.1.map some, [.executed s], ⟨r.2, true⟩)
      else (.error notHeld, [], h)
  | .commit =>
      if h.held then
        let r := b.commit h.store
        (r.1.map fun () => none, ending .commit .committed r.1, ⟨r.2, false⟩)
      else (.error notHeld, [], h)
  | .rollback =>
      if h.held then
        let r := b.rollback h.store
        (.ok none, ending .rollback .rolledBack r.1, ⟨r.2, false⟩)
      else (.ok none, [], h)
  | .abandon => (.ok none, releases h.held, ⟨h.store, false⟩)

/-- The number of connections that are held. -/
def connections (h : Handle σ) : Nat := if h.held then 1 else 0

/-- But for the two events of its own, the end of a transaction only gives the connection back. -/
theorem count_ending {started succeeded e : Event} (hstarted : started ≠ e)
    (hsucceeded : succeeded ≠ e) (result : Except StoreError Unit) :
    (ending started succeeded result).count e = [Event.released].count e := by
  cases result with
  | ok u => rw [ending, List.count_cons_of_ne hstarted, List.count_cons_of_ne hsucceeded]
  | error e' => rw [ending, List.count_cons_of_ne hstarted]

/-- **Connections handed out and given back match what is held.** -/
theorem balance_step (b : Backend σ) (h : Handle σ) (t : TransactionStep) :
    h.connections + (h.step b t).2.1.count .acquired =
      (h.step b t).2.2.connections + (h.step b t).2.1.count .released := by
  obtain ⟨store, held⟩ := h
  cases t with
  | start =>
      simp only [step]
      split <;> cases held <;> simp [releases, connections]
  | execute s => cases held <;> simp [step, connections]
  | commit => cases held <;> simp [step, connections, count_ending]
  | rollback => cases held <;> simp [step, connections, count_ending]
  | abandon => cases held <;> simp [step, releases, connections]

end Handle

end Circulation
