/-
**Paths through sessions: every course that a session can take, whatever it is told.**

The trace of a run lists what happens to connections, but not what the store answered.  The log of
a run keeps the answers as well, so it can tell a statement that failed from one that succeeded.  A
path is a log that the session admits with *some* answers, together with what the session gives in
the end.  Every run follows a path, so what holds of all paths holds of all runs on all stores.

Main definitions:

* `Exchange` — something asked of a store, with its answer;
* `Session.log` — the exchanges of a run;
* `Session.Path` — the logs that a session admits, each with its answer.

Main results:

* `trace_run` — the log determines the trace;
* `path_run` — **every run follows a path**;
* `path_opening_iff`, `path_query_iff`, `path_conclude_iff`, `path_single_iff` — the paths through
  the parts of sessions.
-/

import Circulation.Store.Repository

set_option relaxedAutoImplicit false
set_option autoImplicit false

namespace Circulation

/-! ### Exchanges -/

/-- Something that is asked of a store, with its answer. -/
inductive Exchange where
  | acquire (answer : Except StoreError Unit)
  | execute (s : Statement) (answer : Except StoreError Outcome)
  | commit (answer : Except StoreError Unit)
  | rollback (answer : Except StoreError Unit)

namespace Exchange

/-- What an exchange adds to a trace. -/
def events : Exchange → List Event
  | acquire (.ok ()) => [.acquired]
  | acquire (.error _) => [.refused]
  | execute s _ => [.executed s]
  | commit answer => ending .commit .committed answer
  | rollback answer => ending .rollback .rolledBack answer

/-- The statement that an exchange executes. -/
def statement? : Exchange → Option Statement
  | execute s _ => some s
  | _ => none

end Exchange

/-- The statement that an event starts. -/
def Event.statement? : Event → Option Statement
  | executed s => some s
  | _ => none

/-- The statements that a run starts, in order. -/
def Run.statements {α σ : Type} (r : Run α σ) : List Statement :=
  r.trace.filterMap Event.statement?

/-- The statements of a log, in order. -/
def statementsOf (log : List Exchange) : List Statement := log.filterMap Exchange.statement?

namespace Session

variable {α β σ : Type} {held : Bool}

/-! ### The log of a run -/

/-- The exchanges of a run. -/
def log (b : Backend σ) {held : Bool} : Session α held → σ → List Exchange
  | .done _, _ => []
  | .acquire refused acquired, store =>
      match b.acquire store with
      | (.ok (), store) => .acquire (.ok ()) :: acquired.log b store
      | (.error e, store) => .acquire (.error e) :: (refused e).log b store
  | .execute s next, store =>
      let r := b.execute s store
      .execute s r.1 :: (next r.1).log b r.2
  | .commit next, store =>
      let r := b.commit store
      .commit r.1 :: (next r.1).log b r.2
  | .rollback next, store =>
      let r := b.rollback store
      .rollback r.1 :: next.log b r.2

/-- **The log determines the trace.** -/
theorem trace_run (b : Backend σ) (s : Session α held) (store : σ) :
    (s.run b store).trace = (s.log b store).flatMap Exchange.events := by
  -- run and log ask the store the same things, so they go through the same states
  induction s generalizing store with
  | done a => rfl
  | acquire refused acquired ihr iha =>
      rcases hb : b.acquire store with ⟨answer, store'⟩
      cases answer with
      | ok u => simp only [run, log, hb, Run.after, iha, List.flatMap_cons, Exchange.events]
      | error e => simp only [run, log, hb, Run.after, ihr, List.flatMap_cons, Exchange.events]
  | execute s next ih => simp only [run, log, Run.after, ih, List.flatMap_cons, Exchange.events]
  | commit next ih => simp only [run, log, Run.after, ih, List.flatMap_cons, Exchange.events]
  | rollback next ih => simp only [run, log, Run.after, ih, List.flatMap_cons, Exchange.events]

theorem filterMap_statement?_events (x : Exchange) :
    x.events.filterMap Event.statement? = x.statement?.toList := by
  cases x with
  | acquire answer => cases answer <;> rfl
  | execute s answer => rfl
  | commit answer => cases answer <;> rfl
  | rollback answer => cases answer <;> rfl

/-- The statements of a run are those of its log. -/
theorem statements_run (b : Backend σ) (s : Session α held) (store : σ) :
    (s.run b store).statements = statementsOf (s.log b store) := by
  rw [Run.statements, trace_run, statementsOf]
  -- an exchange adds its own statement to the trace, if it has one, and no other
  induction s.log b store with
  | nil => rfl
  | cons x log ih =>
      rw [List.flatMap_cons, List.filterMap_append, ih, filterMap_statement?_events]
      cases h : x.statement? <;> simp [h]

/-! ### Paths -/

/-- A log that a session admits with some answers of a store, and what the session gives then. -/
inductive Path : {held : Bool} → Session α held → List Exchange → α → Prop
  | done (a : α) : Path (.done a) [] a
  | refused {refused : StoreError → Session α false} {acquired : Session α true} {e : StoreError}
      {log : List Exchange} {a : α} (h : Path (refused e) log a) :
      Path (.acquire refused acquired) (.acquire (.error e) :: log) a
  | acquired {refused : StoreError → Session α false} {acquired : Session α true}
      {log : List Exchange} {a : α} (h : Path acquired log a) :
      Path (.acquire refused acquired) (.acquire (.ok ()) :: log) a
  | execute {s : Statement} {next : Except StoreError Outcome → Session α true}
      {r : Except StoreError Outcome} {log : List Exchange} {a : α} (h : Path (next r) log a) :
      Path (.execute s next) (.execute s r :: log) a
  | commit {next : Except StoreError Unit → Session α false} {r : Except StoreError Unit}
      {log : List Exchange} {a : α} (h : Path (next r) log a) :
      Path (.commit next) (.commit r :: log) a
  | rollback {next : Session α false} {r : Except StoreError Unit} {log : List Exchange} {a : α}
      (h : Path next log a) : Path (.rollback next) (.rollback r :: log) a

/-- **Every run follows a path.** -/
theorem path_run (b : Backend σ) (s : Session α held) (store : σ) :
    Path s (s.log b store) (s.run b store).answer := by
  -- the answers of the store choose the branches of the path
  induction s generalizing store with
  | done a => exact Path.done a
  | acquire refused acquired ihr iha =>
      rcases hb : b.acquire store with ⟨answer, store'⟩
      cases answer with
      | ok u =>
          simp only [run, log, hb]
          exact Path.acquired (iha store')
      | error e =>
          simp only [run, log, hb]
          exact Path.refused (ihr e store')
  | execute s next ih => exact Path.execute (ih _ _)
  | commit next ih => exact Path.commit (ih _ _)
  | rollback next ih => exact Path.rollback (ih _)

theorem path_done_iff {a a' : α} {log : List Exchange} :
    Path (.done a) log a' ↔ log = [] ∧ a' = a := by
  constructor
  · intro h
    cases h
    exact ⟨rfl, rfl⟩
  · rintro ⟨rfl, rfl⟩
    exact Path.done a'

/-- A path through a session with a changed answer is a path through the session. -/
theorem path_map_iff {f : α → β} {s : Session α held} {log : List Exchange} {b : β} :
    Path (s.map f) log b ↔ ∃ a, Path s log a ∧ b = f a := by
  constructor
  · intro h
    -- the change of the answer is put off to the end of every branch
    induction s generalizing log with
    | done a =>
        obtain ⟨rfl, rfl⟩ := path_done_iff.1 h
        exact ⟨a, Path.done a, rfl⟩
    | acquire refused acquired ihr iha =>
        cases h with
        | refused h =>
            obtain ⟨a, ha, hb⟩ := ihr _ h
            exact ⟨a, Path.refused ha, hb⟩
        | acquired h =>
            obtain ⟨a, ha, hb⟩ := iha h
            exact ⟨a, Path.acquired ha, hb⟩
    | execute s next ih =>
        cases h with
        | execute h =>
            obtain ⟨a, ha, hb⟩ := ih _ h
            exact ⟨a, Path.execute ha, hb⟩
    | commit next ih =>
        cases h with
        | commit h =>
            obtain ⟨a, ha, hb⟩ := ih _ h
            exact ⟨a, Path.commit ha, hb⟩
    | rollback next ih =>
        cases h with
        | rollback h =>
            obtain ⟨a, ha, hb⟩ := ih h
            exact ⟨a, Path.rollback ha, hb⟩
  · rintro ⟨a, h, rfl⟩
    induction h with
    | done a => exact Path.done (f a)
    | refused _ ih => exact Path.refused ih
    | acquired _ ih => exact Path.acquired ih
    | execute _ ih => exact Path.execute ih
    | commit _ ih => exact Path.commit ih
    | rollback _ ih => exact Path.rollback ih

/-! ### Paths through the parts of sessions -/

theorem path_refuse_iff {why : Refusal} {log : List Exchange} {a : Answer α} :
    Path (refuse why) log a ↔ log = [] ∧ a = .error (.validation why) :=
  path_done_iff

/-- Asking for a connection ends there, or goes on with the connection. -/
theorem path_opening_iff {next : Session (Answer α) true} {log : List Exchange} {a : Answer α} :
    Path (opening next) log a ↔
      (∃ e, log = [.acquire (.error e)] ∧ a = .error (.persistence (.unavailable e.message))) ∨
        ∃ rest, log = .acquire (.ok ()) :: rest ∧ Path next rest a := by
  constructor
  · intro h
    cases h with
    | @refused _ _ e _ _ h =>
        obtain ⟨rfl, rfl⟩ := path_done_iff.1 h
        exact Or.inl ⟨e, rfl, rfl⟩
    | acquired h => exact Or.inr ⟨_, rfl, h⟩
  · rintro (⟨e, rfl, rfl⟩ | ⟨rest, rfl, h⟩)
    · exact Path.refused (Path.done _)
    · exact Path.acquired h

theorem path_abandon_iff {f : Failure} {log : List Exchange} {a : Answer α} :
    Path (abandon f) log a ↔ ∃ r, log = [.rollback r] ∧ a = .error f := by
  constructor
  · intro h
    cases h with
    | @rollback _ r _ _ h =>
        obtain ⟨rfl, rfl⟩ := path_done_iff.1 h
        exact ⟨r, rfl, rfl⟩
  · rintro ⟨r, rfl, rfl⟩
    exact Path.rollback (Path.done _)

/-- A statement that fails is followed by a rollback, and by nothing else. -/
theorem path_query_iff {s : Schema} {statement : Statement}
    {next : Outcome → Session (Answer α) true} {log : List Exchange} {a : Answer α} :
    Path (query s statement next) log a ↔
      (∃ e r, log = [.execute statement (.error e), .rollback r] ∧
        a = .error (.ofStore s e)) ∨
        ∃ out rest, log = .execute statement (.ok out) :: rest ∧ Path (next out) rest a := by
  constructor
  · intro h
    cases h with
    | @execute _ _ r _ _ h =>
        cases r with
        | error e =>
            obtain ⟨r, rfl, rfl⟩ := path_abandon_iff.1 h
            exact Or.inl ⟨e, r, rfl, rfl⟩
        | ok out => exact Or.inr ⟨out, _, rfl, h⟩
  · rintro (⟨e, r, rfl, rfl⟩ | ⟨out, rest, rfl, h⟩)
    · exact Path.execute (path_abandon_iff.2 ⟨r, rfl, rfl⟩)
    · exact Path.execute h

/-- A commit that fails is followed by nothing. -/
theorem path_conclude_iff {s : Schema} {next : Session (Answer α) false} {log : List Exchange}
    {a : Answer α} :
    Path (conclude s next) log a ↔
      (∃ e, log = [.commit (.error e)] ∧ a = .error (.ofStore s e)) ∨
        ∃ rest, log = .commit (.ok ()) :: rest ∧ Path next rest a := by
  constructor
  · intro h
    cases h with
    | @commit _ r _ _ h =>
        cases r with
        | error e =>
            obtain ⟨rfl, rfl⟩ := path_done_iff.1 h
            exact Or.inl ⟨e, rfl, rfl⟩
        | ok u => exact Or.inr ⟨_, rfl, h⟩
  · rintro (⟨e, rfl, rfl⟩ | ⟨rest, rfl, h⟩)
    · exact Path.commit (Path.done _)
    · exact Path.commit h

/-- Looking for a single row ends when the statement fails or finds several rows. -/
theorem path_single_iff {s : Schema} {statement : Statement}
    {next : Option Record → Session (Answer α) true} {log : List Exchange} {a : Answer α} :
    Path (single s statement next) log a ↔
      (∃ e r, log = [.execute statement (.error e), .rollback r] ∧
        a = .error (.ofStore s e)) ∨
      (∃ out r, 2 ≤ out.rows.length ∧ log = [.execute statement (.ok out), .rollback r] ∧
        a = .error (.consistency s.resource out.rows.length)) ∨
      ∃ (row : Option Record) (out : Outcome) (rest : List Exchange), out.rows = row.toList ∧
        log = .execute statement (.ok out) :: rest ∧ Path (next row) rest a := by
  rw [single, path_query_iff]
  refine or_congr_right ⟨?_, ?_⟩
  · rintro ⟨⟨rows, n⟩, rest, rfl, h⟩
    -- no row and one row go on in one way, several rows end the session
    match rows, h with
    | [], h => exact Or.inr ⟨none, ⟨[], n⟩, rest, rfl, rfl, h⟩
    | [row], h => exact Or.inr ⟨some row, ⟨[row], n⟩, rest, rfl, rfl, h⟩
    | row :: row' :: rows, h =>
        obtain ⟨r, rfl, rfl⟩ := path_abandon_iff.1 h
        exact Or.inl ⟨⟨row :: row' :: rows, n⟩, r, by simp, rfl, rfl⟩
  · rintro (⟨⟨rows, n⟩, r, hrows, rfl, rfl⟩ | ⟨row, ⟨rows, n⟩, rest, hrows, rfl, h⟩)
    · refine ⟨_, _, rfl, ?_⟩
      match rows, hrows with
      | _ :: _ :: _, _ => exact path_abandon_iff.2 ⟨r, rfl, rfl⟩
    · refine ⟨_, _, rfl, ?_⟩
      obtain rfl : rows = row.toList := hrows
      cases row with
      | none => exact h
      | some row => exact h

end Session

end Circulation
