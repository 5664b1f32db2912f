/-
**What is left of an operation that fails.**

Whatever goes wrong inside a transaction is rolled back before the failure is told, so nothing of it
stays in the store.  There is one exception.  An update commits and only then reads the row again,
on a connection of its own, and this look-up may fail like any other one, or find the row gone: the
client is told of a failure, and the row has been written.

What is wrong with a request is found before a connection is asked for.  Here, too, an update is the
exception.  It looks only at the names of the attributes beforehand; their values are typed together
with those of the row, and a value that is none of its column is refused inside the transaction.

Main definitions:

* `Segment.statements` — what is executed on a connection;
* `FailedReadingBack` — an update that has committed and fails in reading back;
* `RefusedAtRow` — an update that is refused after it has found its row.

Main results:

* `Operation.failed_run` — **an operation that fails has committed nothing**, but for an update that
  fails in reading back;
* `Operation.refused_run` — **an operation that is refused has not asked for a connection**, but for
  an update that is refused at its row.
-/

import Circulation.Proofs.Schema.Merge
import Circulation.Proofs.Store.WriteBack
import Circulation.Proofs.Store.Lifecycle

set_option relaxedAutoImplicit false
set_option autoImplicit false

namespace Circulation

/-! ### The statements of segments -/

/-- What is executed on a connection. -/
def Segment.statements : Segment → List Statement
  | refused _ => []
  | transaction executions _ => executions.map Prod.fst

theorem Segment.statementsOf_exchanges (g : Segment) : statementsOf g.exchanges = g.statements := by
  cases g with
  | refused e => rfl
  | transaction executions last =>
      have hlast : [last.exchange].filterMap Exchange.statement? = [] := by cases last <;> rfl
      have hmap : (executions.map fun x => Exchange.execute x.1 x.2).filterMap
          Exchange.statement? = executions.map Prod.fst := by
        rw [List.filterMap_map, ← List.filterMap_eq_map]
        rfl
      rw [exchanges, statementsOf, List.filterMap_cons_none rfl, List.filterMap_append, hmap,
        hlast, List.append_nil]
      rfl

/-- The statements of a log are those of its segments. -/
theorem mem_statementsOf_flatMap {segments : List Segment} {g : Segment} (hg : g ∈ segments)
    {st : Statement} (hst : st ∈ g.statements) :
    st ∈ statementsOf (segments.flatMap Segment.exchanges) := by
  rw [statementsOf, List.filterMap_flatMap]
  refine List.mem_flatMap.2 ⟨g, hg, ?_⟩
  rw [← g.statementsOf_exchanges] at hst
  exact hst

/-- What happens in segments makes up a trace. -/
theorem trace_of_segments {α σ : Type} {held : Bool} {b : Backend σ} {s : Session α held}
    {store : σ} {segments : List Segment}
    (h : s.log b store = segments.flatMap Segment.exchanges) :
    (s.run b store).trace = segments.flatMap Segment.events := by
  rw [Session.trace_run, h, List.flatMap_assoc]
  congr 1
  funext g
  exact g.flatMap_events_exchanges

/-! ### Failing -/

/-- An update that has changed its row and committed, and fails in reading back: it has asked for
another connection, if there was one, and has executed nothing on it but the look-up. -/
inductive FailedReadingBack (s : Schema) (id : String) (attributes : Record) (f : Failure) :
    List Segment → Prop
  | intro {key : Param} (hkey : s.readId id = .ok key) {changes : Record}
      (h : s.changes attributes = .ok changes) {found : Outcome} {row : Record}
      (rows : found.rows = [row]) {update : Statement}
      (hupdate : s.writeBack key row changes = .ok update) {out : Outcome}
      (affected : out.affected = 1) {again : List Segment} {a : Answer (Option Record)}
      (hagain : GetCourse s id (again.flatMap Segment.exchanges) a)
      (hanswer : rereadAnswer s id a = .error f)
      (hreads : ∀ g ∈ again, ∀ st ∈ g.statements, st = selectById s key) :
      FailedReadingBack s id attributes f
        (.transaction [(selectById s key, .ok found), (update, .ok out)] (.commit (.ok ())) ::
          again)

/-- A look-up falls into segments that execute nothing else. -/
theorem GetCourse.exists_segments {s : Schema} {id : String} {log : List Exchange}
    {a : Answer (Option Record)} (h : GetCourse s id log a) {key : Param}
    (hkey : s.readId id = .ok key) :
    ∃ segments : List Segment, log = segments.flatMap Segment.exchanges ∧
      ∀ g ∈ segments, ∀ st ∈ g.statements, st = selectById s key := by
  obtain ⟨segments, rfl, -⟩ := h.onOneConnection.segments
  refine ⟨segments, rfl, ?_⟩
  intro g hg st hst
  have hmem := mem_statementsOf_flatMap hg hst
  have hlookup : s.lookup id = .ok (selectById s key) :=
    Schema.lookup_eq_ok_iff.2 ⟨key, hkey, rfl⟩
  obtain hnil | ⟨select, hselect, hl⟩ := h.statements
  · rw [hnil] at hmem
    cases hmem
  · rw [hlookup] at hselect
    obtain rfl := Except.ok.inj hselect
    rw [hl] at hmem
    exact List.mem_singleton.1 hmem

/-- An update that fails has committed nothing, or it fails in reading back. -/
theorem UpdateCourse.uncommitted_or_readBack {s : Schema} {id : String} {attributes : Record}
    {log : List Exchange} {a : Answer (Option Record)} (h : UpdateCourse s id attributes log a)
    {f : Failure} (ha : a = .error f) :
    OnOneConnection log false ∨ ∃ segments : List Segment,
      log = segments.flatMap Segment.exchanges ∧
        FailedReadingBack s id attributes f segments := by
  cases h with
  | unread h => exact Or.inl .none
  | refused hkey h => exact Or.inl .none
  | unavailable hkey h e => exact Or.inl (.refused e)
  | unselected hkey h e x => exact Or.inl (.one (.rollback x))
  | several hkey h rows x => exact Or.inl (.one (.rollback x))
  | absent hkey h rows x => exact Or.inl (.one (.rollback x))
  | unwritten hkey h rows hwhy x => exact Or.inl (.one (.rollback x))
  | failed hkey h rows hupdate e x => exact Or.inl (.two (.rollback x))
  | miscounted hkey h rows hupdate affected x => exact Or.inl (.two (.rollback x))
  | uncommitted hkey h rows hupdate affected e => exact Or.inl (.two (.commit (.error e)))
  | committed hkey h rows hupdate affected again =>
      -- the commit is kept, whatever the look-up comes to
      obtain ⟨segments, rfl, hreads⟩ := again.exists_segments hkey
      exact Or.inr ⟨_, rfl, .intro hkey h rows hupdate affected again ha hreads⟩

/-- A log without a commit falls into segments without one. -/
theorem OnOneConnection.exists_uncommitted {log : List Exchange} (h : OnOneConnection log false) :
    ∃ segments : List Segment, log = segments.flatMap Segment.exchanges ∧
      ∀ g ∈ segments, g.committed = false := by
  obtain ⟨segments, hlog, -, -, hcommitted⟩ := h.segments
  refine ⟨segments, hlog, ?_⟩
  intro g hg
  rw [← Bool.not_eq_true]
  intro hg'
  cases hcommitted.2 ⟨g, hg, hg'⟩

namespace Operation

/-- A path that ends in a failure commits nothing, but for an update that fails in reading back. -/
theorem failed_path {r : Repository} {op : Operation} {log : List Exchange} {f : Failure}
    (h : Session.Path (op.session r) log (.error f)) :
    ∃ segments : List Segment, log = segments.flatMap Segment.exchanges ∧
      ((∀ g ∈ segments, g.committed = false) ∨
        ∃ id attributes, op = .update id attributes ∧
          FailedReadingBack r.schema id attributes f segments) := by
  -- on one connection a failure means that nothing was committed
  cases op with
  | list q =>
      obtain ⟨segments, hlog, hends⟩ := (ListCourse.of_path h).onOneConnection.exists_uncommitted
      exact ⟨segments, hlog, Or.inl hends⟩
  | get id =>
      obtain ⟨segments, hlog, hends⟩ := (GetCourse.of_path h).onOneConnection.exists_uncommitted
      exact ⟨segments, hlog, Or.inl hends⟩
  | create attributes =>
      obtain ⟨segments, hlog, hends⟩ := (CreateCourse.of_path h).onOneConnection.exists_uncommitted
      exact ⟨segments, hlog, Or.inl hends⟩
  | update id attributes =>
      obtain hone | ⟨segments, hlog, hback⟩ := (UpdateCourse.of_path h).uncommitted_or_readBack rfl
      · obtain ⟨segments, hlog, hends⟩ := hone.exists_uncommitted
        exact ⟨segments, hlog, Or.inl hends⟩
      · exact ⟨segments, hlog, Or.inr ⟨id, attributes, rfl, hback⟩⟩

/-- **An operation that fails has committed nothing**: each of its connections was refused, or it
was given back after a rollback or after a commit that failed.  The only exception is an update that
has changed its row, and fails in reading it back. -/
theorem failed_run {σ : Type} (r : Repository) (op : Operation) (b : Backend σ) (store : σ)
    {f : Failure} (h : ((op.session r).run b store).answer = .error f) :
    ∃ segments : List Segment,
      (op.session r).log b store = segments.flatMap Segment.exchanges ∧
      ((op.session r).run b store).trace = segments.flatMap Segment.events ∧
      ((∀ g ∈ segments, g.committed = false) ∨
        ∃ id attributes, op = .update id attributes ∧
          FailedReadingBack r.schema id attributes f segments) := by
  have hpath := Session.path_run b (op.session r) store
  rw [h] at hpath
  obtain ⟨segments, hlog, hends⟩ := failed_path hpath
  exact ⟨segments, hlog, trace_of_segments hlog, hends⟩

/-- A store that finds a book, changes it and commits, and is lost when the book is read again. -/
def lostAfterwards : Script :=
  ⟨[], [.now (.ofRows [.ofList [("title", .str "emma")]]), .now (.ofCount 1),
    ⟨.millis 0, .error (.plain "connection reset")⟩], [], []⟩

/-- The title is committed on the first connection; on the second one the look-up is rolled back. -/
theorem failed_run_lostAfterwards :
    let r : Repository := ⟨books, ⟨2024, 5, 17, by decide⟩⟩
    let op : Operation := .update "7" (.ofList [("title", .str "Persuasion")])
    let b := Script.backend (.ofSeconds 5)
    let f : Failure := .persistence (.reported "connection reset")
    ((op.session r).run b lostAfterwards).answer = .error f ∧
      ∃ segments : List Segment,
        (op.session r).log b lostAfterwards = segments.flatMap Segment.exchanges ∧
        ((op.session r).run b lostAfterwards).trace = segments.flatMap Segment.events ∧
        ((∀ g ∈ segments, g.committed = false) ∨
          ∃ id attributes, op = .update id attributes ∧
            FailedReadingBack books id attributes f segments) := by
  intro r op b f
  have hanswer : ((op.session r).run b lostAfterwards).answer = .error f := by rfl
  exact ⟨hanswer, failed_run r op b lostAfterwards hanswer⟩

/-- A failure does not tell that nothing was written: the new title has been committed. -/
theorem committed_lostAfterwards :
    let r : Repository := ⟨books, ⟨2024, 5, 17, by decide⟩⟩
    let op : Operation := .update "7" (.ofList [("title", .str "Persuasion")])
    let run := (op.session r).run (Script.backend (.ofSeconds 5)) lostAfterwards
    run.answer = .error (.persistence (.reported "connection reset")) ∧
      run.trace =
        [.acquired,
          .executed ⟨.query, "SELECT * FROM library_api_books WHERE book_id = $1", [.int 7]⟩,
          .executed ⟨.command, "UPDATE library_api_books SET title = $1 WHERE book_id = $2",
            [.text "persuasion", .int 7]⟩, .commit, .committed, .released,
          .acquired,
          .executed ⟨.query, "SELECT * FROM library_api_books WHERE book_id = $1", [.int 7]⟩,
          .rollback, .rolledBack, .released] :=
  ⟨by rfl, by decide +kernel⟩

end Operation

/-! ### Being refused -/

/-- An update that is refused after it has found its row: there is nothing to write, or one of the
values that it would write is none of its column.  Nothing was written before that. -/
inductive RefusedAtRow (s : Schema) (id : String) (attributes : Record) (why : Refusal) :
    List Exchange → Prop
  | intro {key : Param} (hkey : s.readId id = .ok key) {changes : Record}
      (h : s.changes attributes = .ok changes) {found : Outcome} {row : Record}
      (rows : found.rows = [row])
      (cause : s.merged row changes = [] ∧ why = .nothingToUpdate s.resource ∨
        ∃ c ∈ s.merged row changes, c.written (mergedValue row changes c) = .error why)
      (x : Except StoreError Unit) :
      RefusedAtRow s id attributes why
        [.acquire (.ok ()), .execute (selectById s key) (.ok found), .rollback x]

/-- No error of the store is the fault of a request. -/
theorem Failure.ofStore_ne_validation {α : Type} (s : Schema) (e : StoreError) (why : Refusal) :
    (.error (.ofStore s e) : Answer α) ≠ .error (.validation why) := by
  intro h
  have hkind := kind_ofStore s e
  rw [Except.error.inj h] at hkind
  split at hkind <;> cases hkind

section

variable {s : Schema} {id : String} {q : Query} {attributes : Record} {r : Repository}
variable {log : List Exchange} {why : Refusal}

/-- A look-up is refused before the store is asked. -/
theorem GetCourse.refused_before {a : Answer (Option Record)} (h : GetCourse s id log a)
    (ha : a = .error (.validation why)) : log = [] ∧ s.lookup id = .error why := by
  cases h with
  | refused h =>
      cases ha
      exact ⟨rfl, h⟩
  | unavailable h e => cases ha
  | failed h e x => exact absurd ha (Failure.ofStore_ne_validation s e why)
  | several h rows x => cases ha
  | uncommitted h rows e => exact absurd ha (Failure.ofStore_ne_validation s e why)
  | answered h rows => cases ha

/-- A list is refused before the store is asked. -/
theorem ListCourse.refused_before {a : Answer (PageOf Record)} (h : ListCourse s q log a)
    (ha : a = .error (.validation why)) : log = [] := by
  cases h with
  | refused h => rfl
  | unavailable h e => cases ha
  | countFailed h e x => exact absurd ha (Failure.ofStore_ne_validation s e why)
  | uncounted h total x => cases ha
  | failed h total e x => exact absurd ha (Failure.ofStore_ne_validation s e why)
  | uncommitted h total found e => exact absurd ha (Failure.ofStore_ne_validation s e why)
  | answered h total found => cases ha

/-- A creation is refused before the store is asked. -/
theorem CreateCourse.refused_before {a : Answer Record} (h : CreateCourse r attributes log a)
    (ha : a = .error (.validation why)) : log = [] := by
  cases h with
  | refused h => rfl
  | unavailable h e => cases ha
  | failed h e x =>
      exact absurd ha (Failure.ofStore_ne_validation r.schema e why)
  | miscounted h rows x => cases ha
  | uncommitted h rows e =>
      exact absurd ha (Failure.ofStore_ne_validation r.schema e why)
  | answered h rows => cases ha

/-- Behind an identifier that denotes a key, reading back is not refused. -/
theorem GetCourse.reread_ne_validation {a : Answer (Option Record)} (h : GetCourse s id log a)
    {key : Param} (hkey : s.readId id = .ok key) :
    rereadAnswer s id a ≠ .error (.validation why) := by
  intro ha
  have hlookup : s.lookup id = .ok (selectById s key) :=
    Schema.lookup_eq_ok_iff.2 ⟨key, hkey, rfl⟩
  match a, h, ha with
  | .error f, h, ha =>
      obtain ⟨-, hwhy⟩ := h.refused_before ha
      rw [hlookup] at hwhy
      cases hwhy

/-- An update is refused before the store is asked, or at its row. -/
theorem UpdateCourse.refused_before_or_atRow {a : Answer (Option Record)}
    (h : UpdateCourse s id attributes log a) (ha : a = .error (.validation why)) :
    log = [] ∨ RefusedAtRow s id attributes why log := by
  cases h with
  | unread h => exact Or.inl rfl
  | refused hkey h => exact Or.inl rfl
  | unavailable hkey h e => cases ha
  | unselected hkey h e x => exact absurd ha (Failure.ofStore_ne_validation s e why)
  | several hkey h rows x => cases ha
  | absent hkey h rows x => cases ha
  | unwritten hkey h rows hwhy x =>
      cases ha
      have hcause := Schema.cause_of_writeBack (Schema.isSome_column?_of_changes h) hwhy
      exact Or.inr (.intro hkey h rows hcause x)
  | failed hkey h rows hupdate e x => exact absurd ha (Failure.ofStore_ne_validation s e why)
  | miscounted hkey h rows hupdate affected x => cases ha
  | uncommitted hkey h rows hupdate affected e =>
      exact absurd ha (Failure.ofStore_ne_validation s e why)
  | committed hkey h rows hupdate affected again =>
      exact absurd ha (again.reread_ne_validation hkey)

end

namespace Operation

/-- **An operation that is refused has not asked for a connection.**  The only exception is an
update that has found its row, and is refused because of what it would write. -/
theorem refused_run {σ : Type} (r : Repository) (op : Operation) (b : Backend σ) (store : σ)
    {why : Refusal} (h : ((op.session r).run b store).answer = .error (.validation why)) :
    ((op.session r).run b store).trace = [] ∨
      ∃ id attributes, op = .update id attributes ∧
        RefusedAtRow r.schema id attributes why ((op.session r).log b store) := by
  have hpath := Session.path_run b (op.session r) store
  rw [h] at hpath
  have htrace : (op.session r).log b store = [] → ((op.session r).run b store).trace = [] := by
    intro hlog
    rw [Session.trace_run, hlog]
    rfl
  cases op with
  | list q => exact Or.inl (htrace ((ListCourse.of_path hpath).refused_before rfl))
  | get id => exact Or.inl (htrace ((GetCourse.of_path hpath).refused_before rfl).1)
  | create attributes => exact Or.inl (htrace ((CreateCourse.of_path hpath).refused_before rfl))
  | update id attributes =>
      rcases (UpdateCourse.of_path hpath).refused_before_or_atRow rfl with hlog | hrow
      · exact Or.inl (htrace hlog)
      · exact Or.inr ⟨id, attributes, rfl, hrow⟩

/-- A store that finds a book. -/
def bookFound : Script :=
  ⟨[], [.now (.ofRows [.ofList [("title", .str "emma"), ("publication_year", .ofInt 1815)]])],
    [], []⟩

/-- A year that is no number is refused when the book has been looked up. -/
theorem refused_run_bookFound :
    let r : Repository := ⟨books, ⟨2024, 5, 17, by decide⟩⟩
    let op : Operation := .update "7" (.ofList [("publicationYear", .str "soon")])
    let b := Script.backend (.ofSeconds 5)
    let why : Refusal := .badValue (.str "soon") "publicationYear"
    ((op.session r).run b bookFound).answer = .error (.validation why) ∧
      (((op.session r).run b bookFound).trace = [] ∨
        ∃ id attributes, op = .update id attributes ∧
          RefusedAtRow books id attributes why ((op.session r).log b bookFound)) := by
  intro r op b why
  have hanswer : ((op.session r).run b bookFound).answer = .error (.validation why) := by rfl
  exact ⟨hanswer, refused_run r op b bookFound hanswer⟩

/-- A request that is refused may have asked the store. -/
theorem trace_bookFound :
    let r : Repository := ⟨books, ⟨2024, 5, 17, by decide⟩⟩
    let op : Operation := .update "7" (.ofList [("publicationYear", .str "soon")])
    let run := (op.session r).run (Script.backend (.ofSeconds 5)) bookFound
    run.answer = .error (.validation (.badValue (.str "soon") "publicationYear")) ∧
      run.trace =
        [.acquired,
          .executed ⟨.query, "SELECT * FROM library_api_books WHERE book_id = $1", [.int 7]⟩,
          .rollback, .rolledBack, .released] :=
  ⟨by rfl, by decide +kernel⟩

end Operation

end Circulation
