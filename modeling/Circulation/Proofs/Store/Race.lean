/-
**Races: several sessions on one store, one exchange at a time.**

Sessions that run at the same time take turns on the store.  A schedule says whose turn it is; it is
any list of clients, so what holds of all schedules holds of all ways in which the exchanges of the
sessions can follow each other.  A turn of a client whose session has ended changes nothing.

Main definitions:

* `Running`, `Running.step` — a session under way, and its next exchange;
* `Race`, `Race.step`, `Race.run` — several of them, and the turns of a schedule;
* `Happen` — a list of exchanges as a store goes through them;
* `Race.own` — the exchanges of one client.

Main results:

* `Race.consistent_run` — **the store goes through the exchanges of a race one after the other, and
  each client follows a path of its session**;
* `Race.path_own` — an answer in a race is one at the end of a path;
* `Race.run_alone` — a session that has all the turns runs as it does alone;
* `Session.happen_log` — a store goes through the exchanges of a run.
-/

import Circulation.Proofs.Store.Path
import Mathlib.Logic.Function.Basic

set_option relaxedAutoImplicit false
set_option autoImplicit false

namespace Circulation

variable {α σ ι : Type}

/-! ### Sessions under way -/

/-- What is left of a session. -/
structure Running (α : Type) where
  held : Bool
  session : Session α held

namespace Running

/-- A session that has not asked anything yet. -/
def start (s : Session α false) : Running α := ⟨false, s⟩

/-- The next exchange of a session, with what is left of the session and the store behind it. -/
def step (b : Backend σ) (store : σ) : Running α → Option (Exchange × Running α × σ)
  | ⟨_, .done _⟩ => none
  | ⟨_, .acquire refused acquired⟩ =>
      match b.acquire store with
      | (.ok (), store) => some (.acquire (.ok ()), ⟨true, acquired⟩, store)
      | (.error e, store) => some (.acquire (.error e), ⟨false, refused e⟩, store)
  | ⟨_, .execute s next⟩ =>
      let r := b.execute s store
      some (.execute s r.1, ⟨true, next r.1⟩, r.2)
  | ⟨_, .commit next⟩ =>
      let r := b.commit store
      some (.commit r.1, ⟨false, next r.1⟩, r.2)
  | ⟨_, .rollback next⟩ =>
      let r := b.rollback store
      some (.rollback r.1, ⟨false, next⟩, r.2)

/-- A path through what is left of a session. -/
def Path (r : Running α) (rest : List Exchange) (a : α) : Prop := r.session.Path rest a

/-- The answer of a session that has ended. -/
def answer? : Running α → Option α
  | ⟨_, .done a⟩ => some a
  | _ => none

end Running

/-! ### What a store goes through -/

/-- A store answers an exchange like this, and goes from one state to another. -/
def Exchange.Happens (b : Backend σ) (store store' : σ) : Exchange → Prop
  | acquire answer => b.acquire store = (answer, store')
  | execute s answer => b.execute s store = (answer, store')
  | commit answer => b.commit store = (answer, store')
  | rollback answer => b.rollback store = (answer, store')

/-- A store goes through exchanges one after the other. -/
def Happen (b : Backend σ) : List Exchange → σ → σ → Prop
  | [], store, store' => store' = store
  | x :: xs, store, store'' => ∃ store', x.Happens b store store' ∧ Happen b xs store' store''

theorem happen_append {b : Backend σ} {xs ys : List Exchange} {store store'' : σ} :
    Happen b (xs ++ ys) store store'' ↔
      ∃ store', Happen b xs store store' ∧ Happen b ys store' store'' := by
  induction xs generalizing store with
  | nil =>
      constructor
      · intro h
        exact ⟨store, rfl, h⟩
      · rintro ⟨store', rfl, h⟩
        exact h
  | cons x xs ih =>
      constructor
      · rintro ⟨store₁, hx, h⟩
        obtain ⟨store₂, hxs, hys⟩ := ih.1 h
        exact ⟨store₂, ⟨store₁, hx, hxs⟩, hys⟩
      · rintro ⟨store₂, ⟨store₁, hx, hxs⟩, hys⟩
        exact ⟨store₁, hx, ih.2 ⟨store₂, hxs, hys⟩⟩

namespace Running

variable {b : Backend σ} {store store' : σ} {r next : Running α} {x : Exchange}

/-- An exchange of a session happens to the store. -/
theorem happens_of_step (h : r.step b store = some (x, next, store')) :
    x.Happens b store store' := by
  obtain ⟨held, s⟩ := r
  cases s with
  | done a => cases h
  | acquire refused acquired =>
      rcases hb : b.acquire store with ⟨answer, store''⟩
      cases answer with
      | ok u =>
          simp only [step, hb] at h
          cases h
          exact hb
      | error e =>
          simp only [step, hb] at h
          cases h
          exact hb
  | execute st rest =>
      cases h
      rfl
  | commit rest =>
      cases h
      rfl
  | rollback rest =>
      cases h
      rfl

/-- A path through what is left of a session is a path from one exchange before. -/
theorem path_of_step (h : r.step b store = some (x, next, store')) {rest : List Exchange} {a : α}
    (hrest : next.Path rest a) : r.Path (x :: rest) a := by
  obtain ⟨held, s⟩ := r
  cases s with
  | done a => cases h
  | acquire refused acquired =>
      rcases hb : b.acquire store with ⟨answer, store''⟩
      cases answer with
      | ok u =>
          simp only [step, hb] at h
          cases h
          exact .acquired hrest
      | error e =>
          simp only [step, hb] at h
          cases h
          exact .refused hrest
  | execute st rest =>
      cases h
      exact .execute hrest
  | commit rest =>
      cases h
      exact .commit hrest
  | rollback rest =>
      cases h
      exact .rollback hrest

end Running

/-! ### Races -/

/-- What is left of the session of each client, the store, and the exchanges so far with the client
of each. -/
structure Race (ι α σ : Type) where
  running : ι → Running α
  store : σ
  log : List (ι × Exchange)

namespace Race

variable [DecidableEq ι]

/-- Sessions that have not asked anything yet. -/
def start (sessions : ι → Session α false) (store : σ) : Race ι α σ where
  running i := .start (sessions i)
  store := store
  log := []

/-- The turn of a client. -/
def step (b : Backend σ) (race : Race ι α σ) (i : ι) : Race ι α σ :=
  match (race.running i).step b race.store with
  | none => race
  | some (x, next, store) =>
      { running := Function.update race.running i next
        store := store
        log := race.log ++ [(i, x)] }

/-- The turns of a schedule. -/
def run (b : Backend σ) (race : Race ι α σ) (schedule : List ι) : Race ι α σ :=
  schedule.foldl (step b) race

/-- The exchanges of one client. -/
def own (i : ι) (log : List (ι × Exchange)) : List Exchange :=
  (log.filter fun x => decide (x.1 = i)).map Prod.snd

@[simp] theorem own_nil (i : ι) : own i [] = [] := rfl

@[simp] theorem own_append (i : ι) (log log' : List (ι × Exchange)) :
    own i (log ++ log') = own i log ++ own i log' := by
  simp [own]

theorem own_cons_self (i : ι) (x : Exchange) (log : List (ι × Exchange)) :
    own i ((i, x) :: log) = x :: own i log := by
  simp [own]

theorem own_cons_of_ne {i j : ι} (h : j ≠ i) (x : Exchange) (log : List (ι × Exchange)) :
    own i ((j, x) :: log) = own i log := by
  simp [own, h]

theorem mem_own_iff {i : ι} {x : Exchange} {log : List (ι × Exchange)} :
    x ∈ own i log ↔ (i, x) ∈ log := by
  simp [own]

/-! ### What a race keeps -/

/-- The store has gone through the exchanges of a race, and each client has come along a path of its
session: whatever path goes on from where it stands is one from the beginning. -/
structure Consistent (b : Backend σ) (sessions : ι → Session α false) (store : σ)
    (race : Race ι α σ) : Prop where
  happen : Happen b (race.log.map Prod.snd) store race.store
  path : ∀ (i : ι) (rest : List Exchange) (a : α), (race.running i).Path rest a →
    (sessions i).Path (own i race.log ++ rest) a

variable {b : Backend σ} {sessions : ι → Session α false} {store : σ} {race : Race ι α σ}

theorem consistent_start : Consistent b sessions store (start sessions store) where
  happen := rfl
  path _ _ _ h := h

/-- A turn of a client that has an exchange to come. -/
theorem step_eq_of_some {i : ι} {x : Exchange} {next : Running α} {store' : σ}
    (h : (race.running i).step b race.store = some (x, next, store')) :
    race.step b i = ⟨Function.update race.running i next, store', race.log ++ [(i, x)]⟩ := by
  rw [step, h]

/-- A turn keeps a race consistent. -/
theorem consistent_step (h : Consistent b sessions store race) (i : ι) :
    Consistent b sessions store (race.step b i) := by
  cases hstep : (race.running i).step b race.store with
  | none =>
      rw [step, hstep]
      exact h
  | some result =>
      obtain ⟨x, next, store'⟩ := result
      rw [step_eq_of_some hstep]
      refine ⟨?_, ?_⟩
      · rw [List.map_append]
        exact happen_append.2 ⟨race.store, h.happen, store', Running.happens_of_step hstep, rfl⟩
      · intro j rest a hrest
        -- the client whose turn it is has come one exchange further, the others stand as before
        by_cases hij : i = j
        · subst hij
          simp only [Function.update_self] at hrest
          rw [own_append, own_cons_self, own_nil, List.append_assoc, List.singleton_append]
          exact h.path i (x :: rest) a (Running.path_of_step hstep hrest)
        · simp only [Function.update_of_ne (Ne.symm hij)] at hrest
          rw [own_append, own_cons_of_ne hij, own_nil, List.append_nil]
          exact h.path j rest a hrest

/-- **A schedule keeps a race consistent.** -/
theorem consistent_run (h : Consistent b sessions store race) (schedule : List ι) :
    Consistent b sessions store (race.run b schedule) := by
  induction schedule generalizing race with
  | nil => exact h
  | cons i schedule ih => exact ih (consistent_step h i)

/-- **An answer in a race stands at the end of a path of the session.** -/
theorem path_own (h : Consistent b sessions store race) {i : ι} {a : α}
    (ha : (race.running i).answer? = some a) : (sessions i).Path (own i race.log) a := by
  have hdone : (race.running i).Path [] a := by
    rcases hr : race.running i with ⟨held, s⟩
    rw [hr] at ha
    cases s with
    | done a' =>
        obtain rfl := Option.some.inj ha
        exact .done a'
    | _ => cases ha
  have hpath := h.path i [] a hdone
  rwa [List.append_nil] at hpath

/-! ### One client alone -/

/-- A turn of the only client that is looked at. -/
theorem run_cons_self {r next : Running α} {i : ι} {running : ι → Running α} {store store' : σ}
    {log : List (ι × Exchange)} {x : Exchange} (h : r.step b store = some (x, next, store'))
    (schedule : List ι) :
    run b ⟨Function.update running i r, store, log⟩ (i :: schedule) =
      run b ⟨Function.update running i next, store', log ++ [(i, x)]⟩ schedule := by
  have hself : (Function.update running i r i).step b store = some (x, next, store') := by
    rw [Function.update_self, h]
  rw [run, List.foldl_cons, step_eq_of_some hself, Function.update_idem]
  rfl

/-- **A session that has all the turns runs as it does alone.** -/
theorem run_alone (b : Backend σ) {held : Bool} (s : Session α held) (i : ι)
    (running : ι → Running α) (store : σ) (log : List (ι × Exchange)) :
    run b ⟨Function.update running i ⟨held, s⟩, store, log⟩
        (List.replicate (s.log b store).length i) =
      ⟨Function.update running i ⟨false, .done (s.run b store).answer⟩, (s.run b store).store,
        log ++ (s.log b store).map fun x => (i, x)⟩ := by
  induction s generalizing store log with
  | done a =>
      simp only [Session.log, Session.run, List.length_nil, List.replicate_zero, List.map_nil,
        List.append_nil]
      rfl
  | acquire refused acquired ihr iha =>
      rcases hb : b.acquire store with ⟨answer, store'⟩
      cases answer with
      | ok u =>
          have hstep : Running.step b store ⟨false, .acquire refused acquired⟩ =
              some (.acquire (.ok ()), ⟨true, acquired⟩, store') := by
            simp only [Running.step, hb]
          simp only [Session.log, Session.run, hb, List.length_cons, List.replicate_succ,
            run_cons_self hstep, iha, Run.after, List.map_cons, List.append_assoc,
            List.singleton_append]
      | error e =>
          have hstep : Running.step b store ⟨false, .acquire refused acquired⟩ =
              some (.acquire (.error e), ⟨false, refused e⟩, store') := by
            simp only [Running.step, hb]
          simp only [Session.log, Session.run, hb, List.length_cons, List.replicate_succ,
            run_cons_self hstep, ihr, Run.after, List.map_cons, List.append_assoc,
            List.singleton_append]
  | execute st next ih =>
      have hstep : Running.step b store ⟨true, .execute st next⟩ =
          some (.execute st (b.execute st store).1, ⟨true, next (b.execute st store).1⟩,
            (b.execute st store).2) := rfl
      simp only [Session.log, Session.run, List.length_cons, List.replicate_succ,
        run_cons_self hstep, ih, Run.after, List.map_cons, List.append_assoc,
        List.singleton_append]
  | commit next ih =>
      have hstep : Running.step b store ⟨true, .commit next⟩ =
          some (.commit (b.commit store).1, ⟨false, next (b.commit store).1⟩,
            (b.commit store).2) := rfl
      simp only [Session.log, Session.run, List.length_cons, List.replicate_succ,
        run_cons_self hstep, ih, Run.after, List.map_cons, List.append_assoc,
        List.singleton_append]
  | rollback next ih =>
      have hstep : Running.step b store ⟨true, .rollback next⟩ =
          some (.rollback (b.rollback store).1, ⟨false, next⟩, (b.rollback store).2) := rfl
      simp only [Session.log, Session.run, List.length_cons, List.replicate_succ,
        run_cons_self hstep, ih, Run.after, List.map_cons, List.append_assoc,
        List.singleton_append]

end Race

/-- A store goes through the exchanges of a run. -/
theorem Session.happen_log (b : Backend σ) (s : Session α false) (store : σ) :
    Happen b (s.log b store) store (s.run b store).store := by
  -- a run is a race of one client
  have hrun := Race.run_alone b s () (fun _ => .start s) store []
  have hstart : Function.update (fun _ => Running.start s) () ⟨false, s⟩ =
      fun _ : Unit => Running.start s := Function.update_eq_self () _
  rw [hstart] at hrun
  have hconsistent : Race.Consistent b (fun _ : Unit => s) store (.start (fun _ => s) store) :=
    Race.consistent_start
  have hrace := Race.consistent_run hconsistent (List.replicate (s.log b store).length ())
  have hhappen := hrace.happen
  rw [Race.start, hrun, List.nil_append, List.map_map] at hhappen
  rwa [show Prod.snd ∘ (fun x : Exchange => ((), x)) = id from rfl, List.map_id] at hhappen

end Circulation
