/-
**What an update does with the row that it finds.**

An update that has found its row writes the row and the changes back together, commits when the
store tells that it has changed one row, and rolls back otherwise.  It rolls back as well, without
writing, when there is nothing to write or a value is none of its column.

Main definitions:

* `ChangedOne` — an answer that tells of one changed row;
* `WriteBack` — what happens behind the look-up.

Main results:

* `run_opening`, `run_query_ok`, `run_query_error`, `run_single_one`, `trace_abandon`,
  `trace_conclude` — parts of sessions, run one after the other;
* `Repository.update_writeBack` — **an update writes the merged row, all of it or nothing**.
-/

import Circulation.Proofs.Request.Statements
import Circulation.Proofs.Schema.Merge

set_option relaxedAutoImplicit false
set_option autoImplicit false

namespace Circulation

/-! ### Running parts of sessions -/

namespace Session

variable {α σ : Type} {b : Backend σ} {s : Schema} {st : Statement} {store store' : σ}

theorem run_opening {next : Session (Answer α) true} (h : b.acquire store = (.ok (), store')) :
    (opening next).run b store = (next.run b store').after [.acquired] := by
  unfold opening
  rw [run, h]

theorem run_query_ok {next : Outcome → Session (Answer α) true} {out : Outcome}
    (h : b.execute st store = (.ok out, store')) :
    (query s st next).run b store = ((next out).run b store').after [.executed st] := by
  unfold query
  rw [run, h]

theorem run_query_error {next : Outcome → Session (Answer α) true} {e : StoreError}
    (h : b.execute st store = (.error e, store')) :
    (query s st next).run b store =
      ((abandon (.ofStore s e) : Session (Answer α) true).run b store').after [.executed st] := by
  unfold query
  rw [run, h]

/-- The only row is handed on. -/
theorem run_single_one {next : Option Record → Session (Answer α) true} {out : Outcome}
    {row : Record} (h : b.execute st store = (.ok out, store')) (hrow : out.rows = [row]) :
    (single s st next).run b store = ((next (some row)).run b store').after [.executed st] := by
  unfold single
  rw [run_query_ok h, hrow]

theorem trace_abandon (f : Failure) (store : σ) :
    ((abandon f : Session (Answer α) true).run b store).trace =
      ending .rollback .rolledBack (b.rollback store).1 := by
  unfold abandon
  rw [run]
  exact List.append_nil _

/-- A commit is followed by what comes next, or by nothing. -/
theorem trace_conclude (b : Backend σ) (s : Schema) (next : Session (Answer α) false) (store : σ) :
    ∃ again, ((conclude s next).run b store).trace =
        ending .commit .committed (b.commit store).1 ++ again ∧
      (again = [] ∨ again = (next.run b (b.commit store).2).trace) := by
  unfold conclude
  rw [run]
  cases hanswer : (b.commit store).1 with
  | ok u => exact ⟨_, rfl, Or.inr rfl⟩
  | error e => exact ⟨[], rfl, Or.inl rfl⟩

end Session

/-! ### The second look-up -/

theorem mem_statements_iff {α σ : Type} {run : Run α σ} {st : Statement} :
    st ∈ run.statements ↔ .executed st ∈ run.trace := by
  unfold Run.statements
  rw [List.mem_filterMap]
  constructor
  · rintro ⟨e, he, hst⟩
    cases e with
    | executed st' =>
        obtain rfl := Option.some.inj hst
        exact he
    | _ => cases hst
  · intro h
    exact ⟨_, h, rfl⟩

/-- Reading a row again executes its look-up and nothing else. -/
theorem Repository.lookup_of_executed_reread {σ : Type} {r : Repository} {id : String}
    {b : Backend σ} {store : σ} {st : Statement}
    (h : .executed st ∈ ((r.reread id).run b store).trace) : r.schema.lookup id = .ok st := by
  rw [reread, Session.run_map] at h
  have hmem : st ∈ ((r.get id).run b store).statements := mem_statements_iff.2 h
  rw [Session.statements_run] at hmem
  have hcourse := GetCourse.of_path (Session.path_run b (r.get id) store)
  obtain hnil | ⟨select, hselect, hl⟩ := hcourse.statements
  · rw [hnil] at hmem
    cases hmem
  · rw [hl] at hmem
    obtain rfl := List.mem_singleton.1 hmem
    exact hselect

/-! ### Behind the look-up -/

/-- The store tells that it has changed one row. -/
def ChangedOne (answer : Except StoreError Outcome) : Prop :=
  ∃ out, answer = .ok out ∧ out.affected = 1

/-- What happens to the connection of an update that has found a row. -/
inductive WriteBack {σ : Type} (b : Backend σ) (s : Schema) (key : Param) (row changes : Record)
    (store : σ) : List Event → Prop
  /-- Nothing is written, and there is nothing that could be. -/
  | refused (h : s.merged row changes = [] ∨
        ∃ c ∈ s.merged row changes, ∃ why, c.written (mergedValue row changes c) = .error why) :
      WriteBack b s key row changes store (ending .rollback .rolledBack (b.rollback store).1)
  /-- The merged row is written, but it is not one row that has changed. -/
  | undone {params : List Param} (hne : s.merged row changes ≠ [])
      (hparams : List.Forall₂ (fun c p => c.written (mergedValue row changes c) = .ok p)
        (s.merged row changes) params) {answer : Except StoreError Outcome} {store' : σ}
      (hexecute : b.execute (assigning s (s.merged row changes) params key) store =
        (answer, store')) (hanswer : ¬ChangedOne answer) :
      WriteBack b s key row changes store
        (.executed (assigning s (s.merged row changes) params key) ::
          ending .rollback .rolledBack (b.rollback store').1)
  /-- The merged row is written; behind the commit the row is looked up again at most. -/
  | kept {params : List Param} (hne : s.merged row changes ≠ [])
      (hparams : List.Forall₂ (fun c p => c.written (mergedValue row changes c) = .ok p)
        (s.merged row changes) params) {answer : Except StoreError Outcome} {store' : σ}
      (hexecute : b.execute (assigning s (s.merged row changes) params key) store =
        (answer, store')) (hanswer : ChangedOne answer) {again : List Event}
      (hagain : ∀ st, .executed st ∈ again → st = selectById s key) :
      WriteBack b s key row changes store
        (.executed (assigning s (s.merged row changes) params key) ::
          (ending .commit .committed (b.commit store').1 ++ again))

namespace Repository

variable {σ : Type} {r : Repository}

/-- The write of an update that has found a row, and what follows it. -/
theorem writeBack_of_statement {id : String} {key : Param} (hkey : r.schema.readId id = .ok key)
    {row changes : Record} {params : List Param} (hne : r.schema.merged row changes ≠ [])
    (hparams : List.Forall₂ (fun c p => c.written (mergedValue row changes c) = .ok p)
      (r.schema.merged row changes) params) (b : Backend σ) (store : σ) :
    WriteBack b r.schema key row changes store
      ((Session.query r.schema (assigning r.schema (r.schema.merged row changes) params key)
        fun out =>
          if out.affected = 1 then Session.conclude r.schema (r.reread id)
          else Session.abandon (.persistence (.updated r.schema.resource out.affected))).run b
            store).trace := by
  rcases hexecute : b.execute (assigning r.schema (r.schema.merged row changes) params key) store
    with ⟨answer, store'⟩
  -- a failure is rolled back, and so is any count but one
  cases answer with
  | error e =>
      rw [Session.run_query_error hexecute, Run.after, Session.trace_abandon]
      refine .undone hne hparams hexecute ?_
      rintro ⟨out, hout, -⟩
      cases hout
  | ok out =>
      rw [Session.run_query_ok hexecute, Run.after]
      by_cases haffected : out.affected = 1
      · rw [if_pos haffected]
        obtain ⟨again, htrace, hagain⟩ :=
          Session.trace_conclude b r.schema (r.reread id) store'
        rw [htrace]
        refine .kept hne hparams hexecute ⟨out, rfl, haffected⟩ ?_
        intro st hst
        have hlookup : r.schema.lookup id = .ok (selectById r.schema key) :=
          Schema.lookup_eq_ok_iff.2 ⟨key, hkey, rfl⟩
        rcases hagain with rfl | rfl
        · cases hst
        · have hst := lookup_of_executed_reread hst
          rw [hlookup] at hst
          exact (Except.ok.inj hst).symm
      · rw [if_neg haffected, Session.trace_abandon]
        refine .undone hne hparams hexecute ?_
        rintro ⟨out', hout, hone⟩
        obtain rfl := Except.ok.inj hout
        exact haffected hone

/-- **An update that finds one row writes the merged row back, all of it or nothing**: the columns
of the row that the schema knows and all that are changed, each once, in the order of the schema and
without the primary key; it commits when one row has changed, and rolls back otherwise. -/
theorem update_writeBack (hs : r.schema ∈ catalogue) {id : String} {key : Param}
    (hkey : r.schema.readId id = .ok key) {attributes : Record}
    (hattributes : ∀ name, (Record.toStorage attributes).contains name = true →
      name ≠ r.schema.primaryKey → (r.schema.column? name).isSome = true)
    {b : Backend σ} {store store' store'' : σ} (hacquire : b.acquire store = (.ok (), store'))
    {found : Outcome} (hselect : b.execute (selectById r.schema key) store' = (.ok found, store''))
    {row : Record} (hrow : found.rows = [row]) :
    let changes := (Record.toStorage attributes).erase r.schema.primaryKey
    let columns := r.schema.merged row changes
    columns.Sublist r.schema.columns ∧ (columns.map Column.name).Nodup ∧
      (∀ name, name ∈ columns.map Column.name ↔ name ≠ r.schema.primaryKey ∧
        (changes.contains name = true ∨
          (r.schema.column? name).isSome = true ∧ row.contains name = true)) ∧
      ∃ events, ((r.update id attributes).run b store).trace =
          .acquired :: .executed (selectById r.schema key) :: events ∧
        WriteBack b r.schema key row changes store'' events := by
  intro changes columns
  have hcolumns : ∀ name, changes.contains name = true →
      (r.schema.column? name).isSome = true := by
    intro name hname
    rw [Dict.contains_erase, Bool.and_eq_true, Bool.not_eq_true', decide_eq_false_iff_not] at hname
    exact hattributes name hname.2 fun h => hname.1 h.symm
  have hchanges : r.schema.changes attributes = .ok changes := by
    refine Schema.changes_eq_ok_iff.2 ⟨rfl, Schema.checkAttributes_eq_ok_iff.2 ?_⟩
    intro name hname
    exact hcolumns name (Dict.contains_iff_mem_keys.2 hname)
  refine ⟨Schema.merged_sublist, Schema.nodup_map_name_merged hs,
    Schema.mem_map_name_merged_iff hcolumns, ?_⟩
  unfold update
  simp only [hkey, hchanges]
  rw [Session.run_opening hacquire, Session.run_single_one hselect hrow]
  refine ⟨_, rfl, ?_⟩
  simp only
  -- either every value is one of its column, or one of them stops the update
  rcases forall₂_ok_or_exists_error (fun c : Column => c.written (mergedValue row changes c))
    columns with ⟨params, hparams⟩ | hwhy
  · by_cases hne : columns = []
    · obtain ⟨why, hwrite⟩ := Schema.exists_error_of_writeBack hcolumns key (Or.inl hne)
      simp only [hwrite]
      rw [Session.trace_abandon]
      exact .refused (Or.inl hne)
    · have hwrite := (Schema.writeBack_eq_ok_iff_merged hcolumns key).2
        ⟨hne, params, hparams, rfl⟩
      simp only [hwrite]
      exact writeBack_of_statement hkey hne hparams b store''
  · obtain ⟨why, hwrite⟩ := Schema.exists_error_of_writeBack hcolumns key (Or.inr hwhy)
    simp only [hwrite]
    rw [Session.trace_abandon]
    exact .refused (Or.inr hwhy)

/-- A store that finds a book that has no author yet and comes with a shelf, and changes one row. -/
def anonymousBook : Script :=
  ⟨[], [.now (.ofRows [.ofList [("title", .str "emma"), ("author", .null), ("shelf", .str "A4")]]),
    .now (.ofCount 1)], [], []⟩

/-- The client changes the author and names a key: the title is kept, the shelf is left alone, the
key of the address stands in the condition, and the row is looked up again. -/
theorem update_writeBack_anonymousBook :
    let r : Repository := ⟨books, ⟨2024, 5, 17, by decide⟩⟩
    let attributes : Record := .ofList [("author", .str "Austen"), ("bookId", .str "8")]
    let row : Record := .ofList [("title", .str "emma"), ("author", .null), ("shelf", .str "A4")]
    let changes := (Record.toStorage attributes).erase "book_id"
    let columns := books.merged row changes
    let b := Script.backend (.ofSeconds 5)
    let run := (r.update "7" attributes).run b anonymousBook
    run.statements.map Statement.params =
        [[.int 7], [.text "emma", .text "austen", .int 7], [.int 7]] ∧
      columns.Sublist books.columns ∧ (columns.map Column.name).Nodup ∧
      (∀ name, name ∈ columns.map Column.name ↔ name ≠ "book_id" ∧
        (changes.contains name = true ∨
          (books.column? name).isSome = true ∧ row.contains name = true)) ∧
      ∃ events, run.trace = .acquired :: .executed (selectById books (.int 7)) :: events ∧
        WriteBack b books (.int 7) row changes
          { anonymousBook with replies := anonymousBook.replies.tail } events := by
  intro r attributes row changes columns b run
  refine ⟨by decide +kernel, ?_⟩
  have hkey : books.readId "7" = .ok (.int 7) := by rfl
  have hattributes : (Record.toStorage attributes).keys = ["author", "book_id"] := by
    decide +kernel
  refine update_writeBack (r := r) (by decide) hkey ?_ rfl rfl rfl
  intro name hname hne
  rw [Dict.contains_iff_mem_keys, hattributes] at hname
  simp only [List.mem_cons, List.not_mem_nil, or_false] at hname
  rcases hname with rfl | rfl
  · decide
  · exact absurd rfl hne

end Repository

end Circulation
