/-
**The life of a connection: handed out, used, ended once, given back.**

The trace of an operation falls into segments, one for each time that a connection is asked for.  A
segment is a refusal, or a transaction: one statement or two, then a commit or a rollback, then the
connection is given back.  The store is arbitrary here, so it may refuse, fail, and time out
wherever it likes; a script with delays and entries that never come is one such store.

Main definitions:

* `Ending`, `Segment` — what happens on one connection, with the answers of the store;
* `Segment.events` — the part of a trace that a segment makes up;
* `Segment.Orderly` — one statement or two, and none behind one that failed;
* `Operation.Allows` — how many connections an operation asks for.

Main results:

* `prefix_balanced` — at any moment of segments in a row at most one connection is out;
* `segments_run` — **every run of an operation is made up of orderly segments**, and only after a
  commit there is an answer or a second segment.
-/

import Circulation.Proofs.Store.Course

set_option relaxedAutoImplicit false
set_option autoImplicit false

namespace Circulation

/-! ### Segments -/

/-- The end of a transaction, with what it came to. -/
inductive Ending where
  | commit (answer : Except StoreError Unit)
  | rollback (answer : Except StoreError Unit)

namespace Ending

/-- The exchange at the end of a transaction. -/
def exchange : Ending → Exchange
  | commit answer => .commit answer
  | rollback answer => .rollback answer

/-- What the end of a transaction adds to a trace; the connection is given back last. -/
def events : Ending → List Event
  | commit answer => ending .commit .committed answer
  | rollback answer => ending .rollback .rolledBack answer

/-- Whether the end is a commit that succeeded. -/
def committed : Ending → Bool
  | commit (.ok ()) => true
  | _ => false

theorem events_exchange (last : Ending) : last.exchange.events = last.events := by
  cases last <;> rfl

theorem count_released_events (last : Ending) : last.events.count .released = 1 := by
  rcases last with (e | u) | (e | u) <;> rfl

theorem count_acquired_events (last : Ending) : last.events.count .acquired = 0 := by
  rcases last with (e | u) | (e | u) <;> rfl

theorem committed_mem_events_iff (last : Ending) :
    .committed ∈ last.events ↔ last.committed = true := by
  rcases last with (e | u) | (e | u) <;> simp [events, committed, ending]

/-- A transaction ends in one way only. -/
theorem not_both_ends (last : Ending) :
    ¬(.commit ∈ last.events ∧ .rollback ∈ last.events) := by
  rcases last with (e | u) | (e | u) <;> simp [events, ending]

end Ending

/-- What happens from asking for a connection to giving it back. -/
inductive Segment where
  | refused (e : StoreError)
  | transaction (executions : List (Statement × Except StoreError Outcome)) (last : Ending)

namespace Segment

/-- What the store is asked in a segment. -/
def exchanges : Segment → List Exchange
  | refused e => [.acquire (.error e)]
  | transaction executions last =>
      .acquire (.ok ()) :: ((executions.map fun x => .execute x.1 x.2) ++ [last.exchange])

/-- The part of a trace that a segment makes up. -/
def events : Segment → List Event
  | refused _ => [.refused]
  | transaction executions last =>
      .acquired :: ((executions.map fun x => .executed x.1) ++ last.events)

/-- Whether a segment ends with a commit that succeeded. -/
def committed : Segment → Bool
  | refused _ => false
  | transaction _ last => last.committed

/-- One statement or two, and none behind one that failed or took too long. -/
def Orderly : Segment → Prop
  | refused _ => True
  | transaction executions _ =>
      (executions.length = 1 ∨ executions.length = 2) ∧
        ∀ x ∈ executions.dropLast, ∃ out, x.2 = .ok out

/-- The exchanges of a segment make its part of the trace. -/
theorem flatMap_events_exchanges (g : Segment) :
    g.exchanges.flatMap Exchange.events = g.events := by
  cases g with
  | refused e => rfl
  | transaction executions last =>
      have hmap : (executions.map fun x => Exchange.execute x.1 x.2).flatMap Exchange.events =
          executions.map fun x => .executed x.1 := by
        induction executions with
        | nil => rfl
        | cons x xs ih =>
            rw [List.map_cons, List.flatMap_cons, ih]
            rfl
      simp only [exchanges, events, List.flatMap_append, List.flatMap_cons, hmap,
        last.events_exchange]
      simp [Exchange.events]

/-- While statements are executed, connections are neither handed out nor given back. -/
theorem count_map_executed (executions : List (Statement × Except StoreError Outcome))
    {e : Event} (h : ∀ s, e ≠ .executed s) :
    (executions.map fun x => Event.executed x.1).count e = 0 := by
  rw [List.count_eq_zero]
  intro hmem
  obtain ⟨x, -, hx⟩ := List.mem_map.1 hmem
  exact h x.1 hx.symm

/-- In a segment, what is handed out is given back once. -/
theorem count_released_events (g : Segment) :
    g.events.count .released = g.events.count .acquired := by
  cases g with
  | refused e => rfl
  | transaction executions last =>
      have hr := count_map_executed executions (e := .released) (by simp)
      have ha := count_map_executed executions (e := .acquired) (by simp)
      simp [events, hr, ha, last.count_released_events, last.count_acquired_events]

/-- In a segment there is one end only. -/
theorem not_both_ends (g : Segment) : ¬(.commit ∈ g.events ∧ .rollback ∈ g.events) := by
  cases g with
  | refused e => simp [events]
  | transaction executions last => simpa [events] using last.not_both_ends

theorem committed_mem_events_iff (g : Segment) : .committed ∈ g.events ↔ g.committed = true := by
  cases g with
  | refused e => simp [events, committed]
  | transaction executions last =>
      simpa [events, committed] using last.committed_mem_events_iff

end Segment

/-! ### One connection at a time -/

/-- At any moment of a segment at most one connection is out. -/
theorem Segment.prefix_balanced {g : Segment} {p : List Event} (h : p <+: g.events) :
    p.count .released ≤ p.count .acquired ∧ p.count .acquired ≤ p.count .released + 1 := by
  cases g with
  | refused e =>
      have hr := h.sublist.count_le .released
      have ha := h.sublist.count_le .acquired
      simp [Segment.events] at hr ha
      omega
  | transaction executions last =>
      -- nothing is out yet, or the connection is out and given back at the end at the latest
      obtain rfl | ⟨q, rfl, hq⟩ := List.prefix_cons_iff.1 h
      · simp
      have hr := hq.sublist.count_le .released
      have ha := hq.sublist.count_le .acquired
      have hr' := Segment.count_map_executed executions (e := .released) (by simp)
      have ha' := Segment.count_map_executed executions (e := .acquired) (by simp)
      rw [List.count_append, hr', last.count_released_events] at hr
      rw [List.count_append, ha', last.count_acquired_events] at ha
      have hne : Event.acquired ≠ Event.released := by simp
      rw [List.count_cons_self, List.count_cons_of_ne hne]
      omega

/-- **At any moment of segments in a row at most one connection is out.** -/
theorem prefix_balanced {segments : List Segment} {p : List Event}
    (h : p <+: segments.flatMap Segment.events) :
    p.count .released ≤ p.count .acquired ∧ p.count .acquired ≤ p.count .released + 1 := by
  induction segments generalizing p with
  | nil =>
      rw [List.flatMap_nil, List.prefix_nil] at h
      simp [h]
  | cons g segments ih =>
      rw [List.flatMap_cons] at h
      -- the moment lies in the first segment, or that segment is over
      rcases List.prefix_or_prefix_of_prefix h (List.prefix_append _ _) with hp | hg
      · exact Segment.prefix_balanced hp
      · obtain ⟨q, rfl⟩ := hg
        have hq := ih ((List.prefix_append_right_inj _).1 h)
        have hbal := g.count_released_events
        rw [List.count_append, List.count_append]
        omega

/-! ### Logs with one connection at most -/

/-- A log that asks for one connection at most, and whether it commits on it. -/
inductive OnOneConnection : List Exchange → (committed : Bool) → Prop
  | none : OnOneConnection [] false
  | refused (e : StoreError) : OnOneConnection [.acquire (.error e)] false
  | one {s : Statement} {answer : Except StoreError Outcome} (last : Ending) :
      OnOneConnection [.acquire (.ok ()), .execute s answer, last.exchange] last.committed
  | two {s t : Statement} {out : Outcome} {answer : Except StoreError Outcome} (last : Ending) :
      OnOneConnection
        [.acquire (.ok ()), .execute s (.ok out), .execute t answer, last.exchange] last.committed

/-- A log with one connection at most has one segment at most, and that one is orderly. -/
theorem OnOneConnection.segments {log : List Exchange} {committed : Bool}
    (h : OnOneConnection log committed) :
    ∃ segments : List Segment, log = segments.flatMap Segment.exchanges ∧
      segments.length ≤ 1 ∧ (∀ g ∈ segments, g.Orderly) ∧
      (committed = true ↔ ∃ g ∈ segments, g.committed = true) := by
  cases h with
  | none => exact ⟨[], rfl, by simp⟩
  | refused e => exact ⟨[.refused e], rfl, by simp [Segment.Orderly, Segment.committed]⟩
  | @one s answer last =>
      refine ⟨[.transaction [(s, answer)] last], rfl, Nat.le_refl 1, ?_, ?_⟩
      · simp [Segment.Orderly]
      · simp [Segment.committed]
  | @two s t out answer last =>
      refine ⟨[.transaction [(s, .ok out), (t, answer)] last], rfl, Nat.le_refl 1, ?_, ?_⟩
      · simp [Segment.Orderly]
      · simp [Segment.committed]

/-- A look-up answers exactly after a commit. -/
theorem GetCourse.onOneConnection {s : Schema} {id : String} {log : List Exchange}
    {a : Answer (Option Record)} (h : GetCourse s id log a) : OnOneConnection log a.isOk := by
  cases h with
  | refused h => exact OnOneConnection.none
  | unavailable h e => exact OnOneConnection.refused e
  | failed h e r => exact OnOneConnection.one (.rollback r)
  | several h rows r => exact OnOneConnection.one (.rollback r)
  | uncommitted h rows e => exact OnOneConnection.one (.commit (.error e))
  | answered h rows => exact OnOneConnection.one (.commit (.ok ()))

/-- A list answers exactly after a commit. -/
theorem ListCourse.onOneConnection {s : Schema} {q : Query} {log : List Exchange}
    {a : Answer (PageOf Record)} (h : ListCourse s q log a) : OnOneConnection log a.isOk := by
  cases h with
  | refused h => exact OnOneConnection.none
  | unavailable h e => exact OnOneConnection.refused e
  | countFailed h e r => exact OnOneConnection.one (.rollback r)
  | uncounted h total r => exact OnOneConnection.one (.rollback r)
  | failed h total e r => exact OnOneConnection.two (.rollback r)
  | uncommitted h total found e => exact OnOneConnection.two (.commit (.error e))
  | answered h total found => exact OnOneConnection.two (.commit (.ok ()))

/-- A creation answers exactly after a commit. -/
theorem CreateCourse.onOneConnection {r : Repository} {attributes : Record} {log : List Exchange}
    {a : Answer Record} (h : CreateCourse r attributes log a) : OnOneConnection log a.isOk := by
  cases h with
  | refused h => exact OnOneConnection.none
  | unavailable h e => exact OnOneConnection.refused e
  | failed h e x => exact OnOneConnection.one (.rollback x)
  | miscounted h rows x => exact OnOneConnection.one (.rollback x)
  | uncommitted h rows e => exact OnOneConnection.one (.commit (.error e))
  | answered h rows => exact OnOneConnection.one (.commit (.ok ()))

/-- An update stays on one connection, or commits on it and goes on with another one. -/
theorem UpdateCourse.onTwoConnections {s : Schema} {id : String} {attributes : Record}
    {log : List Exchange} {a : Answer (Option Record)} (h : UpdateCourse s id attributes log a) :
    (∃ committed, OnOneConnection log committed) ∨
      ∃ first rest committed, log = first ++ rest ∧ OnOneConnection first true ∧
        OnOneConnection rest committed := by
  cases h with
  | unread h => exact Or.inl ⟨_, OnOneConnection.none⟩
  | refused hkey h => exact Or.inl ⟨_, OnOneConnection.none⟩
  | unavailable hkey h e => exact Or.inl ⟨_, OnOneConnection.refused e⟩
  | unselected hkey h e x => exact Or.inl ⟨_, OnOneConnection.one (.rollback x)⟩
  | several hkey h rows x => exact Or.inl ⟨_, OnOneConnection.one (.rollback x)⟩
  | absent hkey h rows x => exact Or.inl ⟨_, OnOneConnection.one (.rollback x)⟩
  | unwritten hkey h rows hwhy x => exact Or.inl ⟨_, OnOneConnection.one (.rollback x)⟩
  | failed hkey h rows hupdate e x => exact Or.inl ⟨_, OnOneConnection.two (.rollback x)⟩
  | miscounted hkey h rows hupdate affected x =>
      exact Or.inl ⟨_, OnOneConnection.two (.rollback x)⟩
  | uncommitted hkey h rows hupdate affected e =>
      exact Or.inl ⟨_, OnOneConnection.two (.commit (.error e))⟩
  | @committed key hkey changes h found row rows update hupdate out affected rest a again =>
      -- the first connection ends with its commit, the second one belongs to the look-up
      refine Or.inr ⟨[_, _, _, _], rest, _, rfl, ?_, again.onOneConnection⟩
      exact OnOneConnection.two (.commit (.ok ()))

/-! ### Operations -/

namespace Operation

/-- How many connections an operation asks for: one, and an update asks for a second one once it
has committed on the first. -/
def Allows : Operation → List Segment → Prop
  | update _ _, [first, _] => first.committed = true
  | _, segments => segments.length ≤ 1

/-- Whether an operation reads back what it has written, on a connection of its own. -/
def readsBack : Operation → Bool
  | update _ _ => true
  | _ => false

theorem allows_of_length_le {segments : List Segment} (op : Operation)
    (h : segments.length ≤ 1) : op.Allows segments := by
  cases op with
  | update id attributes =>
      match segments, h with
      | [], h => exact h
      | [_], h => exact h
  | list q => exact h
  | get id => exact h
  | create attributes => exact h

/-- On one connection there is one segment at most, and an answer goes with its commit. -/
theorem exists_segments {op : Operation} {log : List Exchange} {a : Answer op.Result}
    (h : OnOneConnection log a.isOk) :
    ∃ segments : List Segment, log = segments.flatMap Segment.exchanges ∧
      (∀ g ∈ segments, g.Orderly) ∧ op.Allows segments ∧
      (op.readsBack = false → (a.isOk = true ↔ ∃ g ∈ segments, g.committed = true)) := by
  obtain ⟨segments, hlog, hlength, horderly, hanswer⟩ := h.segments
  exact ⟨segments, hlog, horderly, op.allows_of_length_le hlength, fun _ => hanswer⟩

/-- The segments of a path through an operation. -/
theorem segments_path {r : Repository} {op : Operation} {log : List Exchange}
    {a : Answer op.Result} (h : Session.Path (op.session r) log a) :
    ∃ segments : List Segment, log = segments.flatMap Segment.exchanges ∧
      (∀ g ∈ segments, g.Orderly) ∧ op.Allows segments ∧
      (op.readsBack = false → (a.isOk = true ↔ ∃ g ∈ segments, g.committed = true)) := by
  cases op with
  | list q => exact exists_segments (ListCourse.of_path h).onOneConnection
  | get id => exact exists_segments (GetCourse.of_path h).onOneConnection
  | create attributes => exact exists_segments (CreateCourse.of_path h).onOneConnection
  | update id attributes =>
      obtain ⟨c, hone⟩ | ⟨first, rest, c, rfl, hfirst, hrest⟩ :=
        (UpdateCourse.of_path h).onTwoConnections
      · obtain ⟨segments, hlog, hlength, horderly, -⟩ := hone.segments
        exact ⟨segments, hlog, horderly, allows_of_length_le _ hlength, by simp [readsBack]⟩
      · obtain ⟨segments, hlog, hlength, horderly, hcommitted⟩ := hfirst.segments
        obtain ⟨segments', hlog', hlength', horderly', -⟩ := hrest.segments
        obtain ⟨g, hg, hgc⟩ := hcommitted.1 rfl
        -- the first log has a segment with a commit, so it has no other one
        obtain rfl : segments = [g] := by
          match segments, hlength, hg with
          | [g'], _, hg => rw [List.mem_singleton.1 hg]
        refine ⟨[g] ++ segments', ?_, ?_, ?_, by simp [readsBack]⟩
        · rw [hlog, hlog', List.flatMap_append]
        · exact List.forall_mem_append.2 ⟨horderly, horderly'⟩
        · match segments', hlength' with
          | [], _ => exact Nat.le_refl 1
          | [_], _ => exact hgc

/-- **Every run of an operation is made up of orderly segments.**  On each connection there is one
end and nothing behind a statement that failed; connections are given back once and one is out at a
time; and but for an update, which reads back, there is an answer exactly when something was
committed. -/
theorem segments_run {σ : Type} (r : Repository) (op : Operation) (b : Backend σ) (store : σ) :
    ∃ segments : List Segment,
      (op.session r).log b store = segments.flatMap Segment.exchanges ∧
      ((op.session r).run b store).trace = segments.flatMap Segment.events ∧
      (∀ g ∈ segments, g.Orderly ∧ ¬(.commit ∈ g.events ∧ .rollback ∈ g.events) ∧
        g.events.count .released = g.events.count .acquired) ∧
      op.Allows segments ∧
      (∀ p, p <+: ((op.session r).run b store).trace →
        p.count .released ≤ p.count .acquired ∧ p.count .acquired ≤ p.count .released + 1) ∧
      (op.readsBack = false →
        (((op.session r).run b store).answer.isOk = true ↔
          .committed ∈ ((op.session r).run b store).trace)) := by
  obtain ⟨segments, hlog, horderly, hallows, hanswer⟩ :=
    segments_path (Session.path_run b (op.session r) store)
  have htrace : ((op.session r).run b store).trace = segments.flatMap Segment.events := by
    rw [Session.trace_run, hlog, List.flatMap_assoc]
    congr 1
    funext g
    exact g.flatMap_events_exchanges
  refine ⟨segments, hlog, htrace, ?_, hallows, ?_, ?_⟩
  · intro g hg
    exact ⟨horderly g hg, g.not_both_ends, g.count_released_events⟩
  · intro p hp
    rw [htrace] at hp
    exact prefix_balanced hp
  · intro hop
    rw [hanswer hop, htrace, List.mem_flatMap]
    simp only [Segment.committed_mem_events_iff]

end Operation

end Circulation
