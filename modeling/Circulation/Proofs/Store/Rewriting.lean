/-
**An update leaves alone what it does not name, and making it twice is making it once.**

An update writes a whole row back, so most of what it writes it has only read.  What was stored
through a column is written as it is read, so the columns that a client does not name keep what they
hold.  An update that is made a second time finds the row as it would leave it, asks the same
statements, and gives the same answer.

Main definitions:

* `Rewrites` — what an update that gives its row back has done to the row;
* `Schema.StoredAt` — a row that holds what was written under a name.

Main results:

* `UpdateCourse.rewrites` — **an update that gives its row back rewrites it**;
* `UpdateCourse.statements_prefix` — what an update asks, however far it gets;
* `Repository.update_update` — **written values are a fixed point, and so are rewritten rows**.
-/

import Circulation.Proofs.Request.Statements
import Circulation.Proofs.Schema.Rewriting
import Circulation.Proofs.Store.SharedRow

set_option relaxedAutoImplicit false
set_option autoImplicit false

namespace Circulation

/-! ### What an update has done -/

/-- An update has given columns their values and has given the row back: which columns, which
values, which statements, and what is in the row behind it. -/
structure Rewrites (s : Schema) (key : Param) (changes row row' : Record) (params : List Param)
    (statements : List Statement) (answer : Record) : Prop where
  nonempty : s.merged row changes ≠ []
  written : List.Forall₂ (fun c p => c.written (mergedValue row changes c) = .ok p)
    (s.merged row changes) params
  row_eq : row' = assigned row (s.merged row changes) params
  statements_eq : statements =
    [selectById s key, assigning s (s.merged row changes) params key, selectById s key]
  answer_eq : answer = row'.toWire

section Rows

variable {σ : Type} {b : Backend σ} {s : Schema} {key : Param} {row : σ → Record} {id : String}
  {attributes : Record} {log : List Exchange} {a : Answer (Option Record)} {store store' : σ}

/-- A look-up that finds a row gives it as it stands and leaves it. -/
theorem GetCourse.row_of_happen (hb : KeepsRow b s key row) (hkey : s.readId id = .ok key)
    (h : GetCourse s id log a) {record : Record} (ha : a = .ok (some record))
    (hhappen : Happen b log store store') :
    row store' = row store ∧ record = (row store).toWire ∧
      statementsOf log = [selectById s key] := by
  cases h with
  | @answered select hselect found row' hrows =>
      obtain ⟨key', hkey', rfl⟩ := Schema.lookup_eq_ok_iff.1 hselect
      rw [hkey] at hkey'
      obtain rfl := Except.ok.inj hkey'
      have hquiet : ∀ x ∈ [Exchange.acquire (.ok ()), .execute (selectById s key) (.ok found),
          .commit (.ok ())], x.Quiet s key := by
        intro x hx
        simp only [List.mem_cons, List.not_mem_nil, or_false] at hx
        rcases hx with rfl | rfl | rfl
        · exact .acquire
        · exact .select found
        · exact .commit
      obtain ⟨hrow, hread⟩ := row_of_quiet hb hhappen hquiet
      have hfound : found.rows = [row store] := hread found (by simp)
      have hrecord : row'.map Record.toWire = some record := Except.ok.inj ha
      rw [hrows] at hfound
      obtain rfl : row' = some (row store) := by
        cases row' with
        | none => cases hfound
        | some r => exact congrArg some (List.cons.inj hfound).1
      exact ⟨hrow, (Option.some.inj hrecord).symm, rfl⟩
  | _ => cases ha

/-- **What an update that gives its row back has done to the row.** -/
theorem UpdateCourse.rewrites (hb : KeepsRow b s key row) (hkey : s.readId id = .ok key)
    (h : UpdateCourse s id attributes log a) {record : Record} (ha : a = .ok (some record))
    (hhappen : Happen b log store store') :
    s.checkAttributes (s.named attributes) = .ok () ∧ ∃ params,
      Rewrites s key (s.named attributes) (row store) (row store') params (statementsOf log)
        record := by
  cases h with
  | @committed key' hkey' changes h found row' rows update hupdate out affected rest a' again =>
      rw [hkey] at hkey'
      obtain rfl := Except.ok.inj hkey'
      have hcolumns := Schema.isSome_column?_of_changes h
      obtain ⟨rfl, hcheck⟩ := Schema.changes_eq_ok_iff.1 h
      obtain ⟨hne, params, hparams, rfl⟩ :=
        (Schema.writeBack_eq_ok_iff_merged hcolumns key).1 hupdate
      have hagain : a' = .ok (some record) := by
        match a', ha with
        | .ok (some record'), ha => exact ha
      -- the row is found as it stands, written, committed, and looked up again
      obtain ⟨store₁, hacquire, store₂, hselect, store₃, hwrite, store₄, hcommit, hrest⟩ := hhappen
      obtain ⟨hfound, hrow₂⟩ := hb.select hselect
      rw [rows, hb.acquire hacquire] at hfound
      obtain rfl : row' = row store := (List.cons.inj hfound).1
      rw [hb.acquire hacquire] at hrow₂
      have hrow₃ := hb.update (s.merged_sublist_settable (row store) _) hne hparams.length_eq hwrite
        affected
      rw [hrow₂] at hrow₃
      obtain ⟨hrow, hrecord, hstatements⟩ := again.row_of_happen hb hkey hagain hrest
      rw [hb.commit hcommit] at hrow hrecord
      refine ⟨hcheck, params, hne, hparams, hrow.trans hrow₃, ?_, ?_⟩
      · exact congrArg (fun rest => _ :: _ :: rest) hstatements
      · rw [hrow]
        exact hrecord
  | _ => cases ha

/-- An update has not asked for anything, or has got no connection, or has looked its row up. -/
theorem UpdateCourse.opens (h : UpdateCourse s id attributes log a) :
    log = [] ∨ (∃ e, log = [.acquire (.error e)]) ∨ ∃ key answer rest, s.readId id = .ok key ∧
      log = .acquire (.ok ()) :: .execute (selectById s key) answer :: rest := by
  cases h with
  | unread h => exact Or.inl rfl
  | refused hkey h => exact Or.inl rfl
  | unavailable hkey h e => exact Or.inr (Or.inl ⟨e, rfl⟩)
  | unselected hkey h e x => exact Or.inr (Or.inr ⟨_, _, _, hkey, rfl⟩)
  | several hkey h rows x => exact Or.inr (Or.inr ⟨_, _, _, hkey, rfl⟩)
  | absent hkey h rows x => exact Or.inr (Or.inr ⟨_, _, _, hkey, rfl⟩)
  | unwritten hkey h rows hwhy x => exact Or.inr (Or.inr ⟨_, _, _, hkey, rfl⟩)
  | failed hkey h rows hupdate e x => exact Or.inr (Or.inr ⟨_, _, _, hkey, rfl⟩)
  | miscounted hkey h rows hupdate affected x => exact Or.inr (Or.inr ⟨_, _, _, hkey, rfl⟩)
  | uncommitted hkey h rows hupdate affected e => exact Or.inr (Or.inr ⟨_, _, _, hkey, rfl⟩)
  | committed hkey h rows hupdate affected again => exact Or.inr (Or.inr ⟨_, _, _, hkey, rfl⟩)

/-- The first answer to an update is the row as it stands. -/
theorem UpdateCourse.rows_of_reply (hb : KeepsRow b s key row) (hkey : s.readId id = .ok key)
    (h : UpdateCourse s id attributes log a) (hhappen : Happen b log store store')
    {found : Outcome} (hreply : (repliesOf log)[0]? = some (.ok found)) :
    found.rows = [row store] := by
  rcases h.opens with rfl | ⟨e, rfl⟩ | ⟨key', answer, rest, hkey', rfl⟩
  · cases hreply
  · cases hreply
  · rw [hkey] at hkey'
    obtain rfl := Except.ok.inj hkey'
    obtain rfl : answer = .ok found := Option.some.inj hreply
    obtain ⟨store₁, hacquire, store₂, hselect, -⟩ := hhappen
    rw [(hb.select hselect).1, hb.acquire hacquire]

/-- However far an update gets, it asks what writes the row back, or the beginning of that. -/
theorem UpdateCourse.statements_prefix (hb : KeepsRow b s key row) (hkey : s.readId id = .ok key)
    (h : UpdateCourse s id attributes log a) (hhappen : Happen b log store store')
    {update : Statement} (hupdate : s.writeBack key (row store) (s.named attributes) = .ok update) :
    statementsOf log <+: [selectById s key, update, selectById s key] := by
  rcases h.statements with hnil | ⟨key', changes, hkey', hchanges, hstatements⟩
  · rw [hnil]
    exact List.nil_prefix
  rw [hkey] at hkey'
  obtain rfl := Except.ok.inj hkey'
  obtain ⟨rfl, -⟩ := Schema.changes_eq_ok_iff.1 hchanges
  rcases hstatements with hselect | ⟨found, row', update', hreply, hrow', hupdate', hprefix⟩
  · rw [hselect]
    exact List.prefix_append [_] [_, _]
  · have hfound := h.rows_of_reply hb hkey hhappen hreply
    rw [hrow'] at hfound
    obtain rfl : row' = row store := (List.cons.inj hfound).1
    rw [show s.writeBack key (row store) ((Record.toStorage attributes).erase s.primaryKey) =
      .ok update from hupdate] at hupdate'
    obtain rfl := Except.ok.inj hupdate'
    exact hprefix

end Rows

/-! ### Updates made twice -/

/-- Under a name a row holds nothing but what was written through its column.  The key and names
that are no columns are never written, so they may hold anything. -/
def Schema.StoredAt (s : Schema) (row : Record) (name : String) : Prop :=
  ∀ c ∈ s.settable, c.name = name → ∀ v, row.get? name = some v → c.Stored v

/-- A column holds what was written through it. -/
theorem Schema.storedAt_of_written {s : Schema} (hs : s ∈ catalogue) {row : Record} {c : Column}
    (hc : c ∈ s.columns) {v : Json} (hget : row.get? c.name = some v) {p : Param}
    (hp : c.written v = .ok p) (hv : p.stored = v) : s.StoredAt row c.name := by
  intro d hd hname v' hv'
  have hmem : d ∈ s.columns := (List.mem_filter.1 hd).1
  obtain rfl : d = c := List.inj_on_of_nodup_map (nodup_map_name hs) hmem hc hname
  rw [hget] at hv'
  obtain rfl := Option.some.inj hv'
  exact ⟨v, p, hp, hv.symm⟩

section Twice

variable {s : Schema} {key : Param} {changes row row' : Record} {params : List Param}
  {statements : List Statement} {answer : Record}

/-- A column that is not named keeps what was stored in it. -/
theorem Rewrites.get?_of_stored (hs : s ∈ catalogue)
    (h : Rewrites s key changes row row' params statements answer) {name : String}
    (hname : changes.contains name = false) (hstored : s.StoredAt row name) :
    row'.get? name = row.get? name := by
  rw [h.row_eq]
  refine get?_assigned_of_stored h.written (Schema.nodup_map_name_merged hs) ?_
  rintro c hc rfl
  have hsettable : c ∈ s.settable := (s.merged_sublist_settable row changes).subset hc
  -- a column that is written and not named has been read
  have hin := (List.mem_filter.1 hc).2
  simp only [Bool.and_eq_true, Bool.or_eq_true, hname, Bool.false_eq_true, false_or] at hin
  obtain ⟨v, hv⟩ := Option.isSome_iff_exists.1 hin.2
  have hchange : changes.get? c.name = none := by
    rw [Dict.contains_eq_isSome, Option.isSome_eq_false_iff] at hname
    exact Option.isNone_iff_eq_none.1 hname
  refine ⟨v, hv, hstored c hsettable rfl v hv, ?_⟩
  rw [mergedValue, hchange, Option.getD_none, Record.valueOf, hv, Option.getD_some]

/-- What an update has left it leaves once more. -/
theorem Rewrites.row_eq_of_again (hs : s ∈ catalogue)
    (h : Rewrites s key changes row row' params statements answer) {row'' : Record}
    {params' : List Param} {statements' : List Statement} {answer' : Record}
    (h' : Rewrites s key changes row' row'' params' statements' answer') : row'' = row' := by
  have hnodup : ((s.merged row changes).map Column.name).Nodup := Schema.nodup_map_name_merged hs
  have hmerged : s.merged row' changes = s.merged row changes := by
    rw [h.row_eq]
    exact Schema.merged_assigned hs h.written
  refine Dict.ext_get? fun name => ?_
  rw [h'.row_eq]
  refine get?_assigned_of_stored h'.written (Schema.nodup_map_name_merged hs) ?_
  rintro c hc rfl
  rw [hmerged] at hc
  obtain ⟨p, hp, hget⟩ := get?_assigned_of_mem h.written hnodup hc row
  rw [← h.row_eq] at hget
  refine ⟨p.stored, hget, ⟨_, p, hp, rfl⟩, ?_⟩
  rw [Schema.written_mergedValue hp hget, Column.written_stored hp]

end Twice

/-- **Written values are a fixed point of reading and writing, so an update leaves alone what it
does not name, and making it twice is making it once.**  However the second update ends, it asks no
other statements than the first one; and if it gives the row back, it is the same row as before. -/
theorem Repository.update_update {r : Repository} (hs : r.schema ∈ catalogue) :
    (∀ {record : Record} {values : List (String × Param)},
      r.schema.writeValues record = .ok values →
        ∃ back, readRow? (values.map fun v => (v.1, v.2.cell)) = some back ∧
          r.schema.writeValues back = .ok values) ∧
    ∀ {σ : Type} {b : Backend σ} {key : Param} {row : σ → Record}, KeepsRow b r.schema key row →
      ∀ {id : String}, r.schema.readId id = .ok key →
        ∀ (attributes : Record) (store : σ) (answer : Record),
          let first := (r.update id attributes).run b store
          let second := (r.update id attributes).run b first.store
          first.answer = .ok (some answer) →
            (∀ name, (r.schema.named attributes).contains name = false →
              r.schema.StoredAt (row store) name →
                (row first.store).get? name = (row store).get? name) ∧
            second.statements <+: first.statements ∧
            ∀ answer', second.answer = .ok (some answer') →
              answer' = answer ∧ second.statements = first.statements ∧
                row second.store = row first.store := by
  refine ⟨Schema.writeValues_readRow? hs, ?_⟩
  intro σ b key row hb id hkey attributes store answer first second hfirst
  have hlog := Session.happen_log b (r.update id attributes) store
  have hlog' := Session.happen_log b (r.update id attributes) first.store
  have hcourse := UpdateCourse.of_path (Session.path_run b (r.update id attributes) store)
  have hcourse' := UpdateCourse.of_path (Session.path_run b (r.update id attributes) first.store)
  obtain ⟨hcheck, params, h⟩ := hcourse.rewrites hb hkey hfirst hlog
  rw [← Session.statements_run] at h
  have hcolumns : ∀ name, (r.schema.named attributes).contains name = true →
      (r.schema.column? name).isSome = true := fun name hname =>
    Schema.checkAttributes_eq_ok_iff.1 hcheck name (Dict.contains_iff_mem_keys.1 hname)
  have hprefix : second.statements <+: first.statements := by
    have hupdate := Schema.writeBack_assigned hs hcolumns h.nonempty h.written key
    rw [← h.row_eq] at hupdate
    rw [h.statements_eq, Session.statements_run]
    exact hcourse'.statements_prefix hb hkey hlog' hupdate
  refine ⟨fun name hname hstored => h.get?_of_stored hs hname hstored, hprefix, ?_⟩
  intro answer' hsecond
  obtain ⟨-, params', h'⟩ := hcourse'.rewrites hb hkey hsecond hlog'
  rw [← Session.statements_run] at h'
  have hrow : row second.store = row first.store := h.row_eq_of_again hs h'
  refine ⟨?_, hprefix.eq_of_length ?_, hrow⟩
  · rw [h'.answer_eq, hrow, h.answer_eq]
  · rw [h'.statements_eq, h.statements_eq]
    rfl

/-- A loan between the first and the last day that there is. -/
def longLoan : Record :=
  .ofList [("book_id", .ofInt 7), ("borrow_date", .str "0000-01-01"), ("borrow_id", .ofInt 3),
    ("due_date", .str "9999-12-31"), ("member_id", .ofInt 9), ("return_date", .null),
    ("status", .str "ongoing")]

/-- The book is given back. -/
def givingBack : Record :=
  .ofList [("returnDate", .str "05-JAN-24"), ("status", .str "Returned")]

/-- What the update answers, and the loan after it. -/
def givenBack : Run (Answer (Option Record)) Record :=
  (Repository.update ⟨borrows, ⟨2024, 5, 17, Calendar.exists_seventeenthOfMay⟩⟩ "3" givingBack).run
    (soleRow borrows (.int 3)) longLoan

/-- The same update once more, on the loan that the first one left. -/
def givenBackAgain : Run (Answer (Option Record)) Record :=
  (Repository.update ⟨borrows, ⟨2024, 5, 17, Calendar.exists_seventeenthOfMay⟩⟩ "3" givingBack).run
    (soleRow borrows (.int 3)) givenBack.store

/-- Both times the loan is given. -/
theorem answer_givenBack :
    (∃ answer, givenBack.answer = .ok (some answer)) ∧
      ∃ answer, givenBackAgain.answer = .ok (some answer) := by
  have hall : ∀ run ∈ [givenBack, givenBackAgain],
      (run.answer.toOption.bind id).isSome = true := by decide +kernel
  have hanswered : ∀ run ∈ [givenBack, givenBackAgain],
      ∃ answer, run.answer = .ok (some answer) := by
    intro run hrun
    obtain ⟨answer, h⟩ := Option.isSome_iff_exists.1 (hall run hrun)
    obtain ⟨found, hfound, rfl⟩ := Option.bind_eq_some_iff.1 h
    exact ⟨answer, eq_ok_of_toOption hfound⟩
  exact ⟨hanswered _ List.mem_cons_self, hanswered _ (List.mem_cons_of_mem _ List.mem_cons_self)⟩

/-- The days of the loan were written through their columns. -/
theorem storedAt_longLoan :
    borrows.StoredAt longLoan "borrow_date" ∧ borrows.StoredAt longLoan "due_date" := by
  have hs : borrows ∈ catalogue := by simp [catalogue]
  have hfirst : ((Column.date "borrow_date").written (.str "0000-01-01")).toOption =
      some (.date ⟨0, 1, 1, by decide⟩) := by decide +kernel
  have hlast : ((Column.date "due_date").written (.str "9999-12-31")).toOption =
      some (.date ⟨9999, 12, 31, by decide⟩) := by decide +kernel
  have hborrow : Column.date "borrow_date" ∈ borrows.columns := by decide
  have hdue : Column.date "due_date" ∈ borrows.columns := by decide
  exact ⟨Schema.storedAt_of_written hs hborrow rfl (eq_ok_of_toOption hfirst)
      (congrArg Json.str (by decide +kernel)),
    Schema.storedAt_of_written hs hdue rfl (eq_ok_of_toOption hlast)
      (congrArg Json.str (by decide +kernel))⟩

/-- Both days of the loan are written back as they are, and giving the book back twice is giving it
back once. -/
theorem Repository.update_update_longLoan :
    let values : List (String × Param) :=
      [("return_date", .date ⟨2024, 1, 5, by decide⟩), ("status", .text "returned")]
    borrows.writeValues (Record.toStorage givingBack) = .ok values ∧
    (∃ back, readRow? (values.map fun v => (v.1, v.2.cell)) = some back ∧
      borrows.writeValues back = .ok values) ∧
    KeepsRow (soleRow borrows (.int 3)) borrows (.int 3) (fun row => row) ∧
    ∃ answer, givenBack.answer = .ok (some answer) ∧
      (∀ name ∈ ["borrow_date", "due_date"], (borrows.named givingBack).contains name = false ∧
        borrows.StoredAt longLoan name ∧ givenBack.store.get? name = longLoan.get? name) ∧
      givenBackAgain.answer = .ok (some answer) ∧
      givenBackAgain.statements = givenBack.statements ∧
      givenBackAgain.store = givenBack.store := by
  intro values
  have hs : borrows ∈ catalogue := by simp [catalogue]
  have hkey : borrows.readId "3" = .ok (.int 3) := by rfl
  have hkeeps : KeepsRow (soleRow borrows (.int 3)) borrows (.int 3) (fun row => row) :=
    keepsRow_soleRow hs _
  have hvalues : borrows.writeValues (Record.toStorage givingBack) = .ok values :=
    eq_ok_of_toOption (by decide +kernel)
  have hnamed : ∀ name ∈ ["borrow_date", "due_date"],
      (borrows.named givingBack).contains name = false := by decide +kernel
  have hstored : ∀ name ∈ ["borrow_date", "due_date"], borrows.StoredAt longLoan name := by
    intro name hname
    simp only [List.mem_cons, List.not_mem_nil, or_false] at hname
    rcases hname with rfl | rfl
    · exact storedAt_longLoan.1
    · exact storedAt_longLoan.2
  obtain ⟨⟨answer, hfirst⟩, answer', hsecond⟩ := answer_givenBack
  obtain ⟨hfixed, htwice⟩ :=
    Repository.update_update (r := ⟨borrows, ⟨2024, 5, 17, by decide⟩⟩) hs
  obtain ⟨hkept, -, hagain⟩ := htwice hkeeps hkey givingBack longLoan answer hfirst
  obtain ⟨rfl, hstatements, hstore⟩ := hagain answer' hsecond
  refine ⟨hvalues, hfixed hvalues, hkeeps, answer', hfirst, ?_, hsecond, hstatements, hstore⟩
  intro name hname
  exact ⟨hnamed name hname, hstored name hname,
    hkept name (hnamed name hname) (hstored name hname)⟩

end Circulation
