/-
**Placeholders and parameters belong together.**

The text of a statement and the list of its parameters are made at different places: the text from
conditions and columns, the parameters from values that are typed one by one.  Both sides count
alike.  Whatever a request executes or shows, the placeholders of the text are numbered by the
parameters, every parameter has the type of the column that it is compared with or given to, and the
two numbers of a page are the ones that the request asks for.

Main definitions:

* `Request.schema?`, `Request.page?` — the resource and the page that a request is about.

Main results:

* `plan_follows`, `lookup_follows`, `writeBack_follows`, `creation_follows` — the statements follow
  their phrases;
* `statements_bound` — **every statement of a request follows a phrase of its resource, and has its
  placeholders in the order of its parameters**.
-/

import Circulation.Proofs.Calendar.Literal
import Circulation.Proofs.Request.Statements
import Circulation.Proofs.Sql.Building

set_option relaxedAutoImplicit false
set_option autoImplicit false

namespace Circulation

/-! ### Values that do -/

namespace Schema

variable {s : Schema}

/-- What a condition binds does for its comparison. -/
theorem admits_of_bindOne {cond : Condition} {p : Param} (h : s.bindOne cond = .ok p) :
    ∃ c, s.column? cond.column = some c ∧ Use.Admits (.comparison c cond.comparison) p := by
  obtain ⟨c, hc, hp⟩ := bindOne_eq_ok_iff.1 h
  refine ⟨c, hc, ?_⟩
  by_cases htext : cond.comparison.textOnly = true
  · rw [if_pos htext] at hp
    obtain ⟨htype, rfl⟩ := hp
    exact .comparison htype.symm rfl fun _ => htype
  · rw [if_neg htext] at hp
    obtain ⟨htype, hnull⟩ := Column.type_of_param hp
    exact .comparison htype hnull fun ht => absurd ht htext

/-- Bound conditions are comparisons of columns with values that do. -/
theorem exists_compared {conds : List Condition} {params : List Param}
    (h : s.bind conds = .ok params) :
    ∃ l : List Compared, l.map (fun x => (x.1.name, x.2)) = conds.map Condition.heading ∧
      (∀ x ∈ l, x.1 ∈ s.columns) ∧
      List.Forall₂ Use.Admits (l.map fun x => .comparison x.1 x.2) params := by
  have hbound := bind_eq_ok_iff.1 h
  clear h
  -- column by column, since each condition names a column that is known
  induction hbound with
  | nil => exact ⟨[], rfl, fun x hx => absurd hx List.not_mem_nil, .nil⟩
  | @cons cond p conds params hcond _ ih =>
      obtain ⟨l, hnames, hl, hparams⟩ := ih
      obtain ⟨c, hc, hp⟩ := admits_of_bindOne hcond
      obtain ⟨hmem, hname⟩ := mem_of_column? hc
      refine ⟨(c, cond.comparison) :: l, ?_, ?_, .cons hp hparams⟩
      · rw [List.map_cons, List.map_cons, hnames, hname]
        rfl
      · intro x hx
        rcases List.mem_cons.1 hx with rfl | hx
        · exact hmem
        · exact hl x hx

/-- A key does for the comparison with the primary key. -/
theorem admits_of_readId {id : String} {key : Param} (h : s.readId id = .ok key) :
    ∃ c, s.column? s.primaryKey = some c ∧ Use.Admits (.comparison c (.builtin .eq)) key := by
  obtain ⟨c, hc, hkey⟩ := readId_eq_ok_iff.1 h
  obtain ⟨htype, hnull⟩ := Column.type_of_param hkey
  refine ⟨c, hc, .comparison htype hnull fun ht => ?_⟩
  cases ht

theorem writable_subset {r : Record} : ∀ c ∈ s.writable r, c ∈ s.columns := by
  intro c hc
  exact (List.mem_filter.1 hc).1

/-- What a record writes does for the columns that it is written to. -/
theorem admits_of_writeValues {r : Record} {values : List (String × Param)}
    (h : s.writeValues r = .ok values) :
    List.Forall₂ Use.Admits ((s.writable r).map .assignment) (values.map Prod.snd) := by
  have hvalues := (writeValues_eq_ok_iff.1 h).2
  rw [← map_fst_present, List.map_map, List.forall₂_map_left_iff, List.forall₂_map_right_iff]
  refine hvalues.imp ?_
  rintro x v ⟨-, hv⟩
  exact .assignment (Column.type_of_written hv)

/-! ### Statements and their phrases -/

/-- **Both statements of a list compare the same columns**, and the page is that of the query. -/
theorem plan_follows {q : Query} {count select : Statement} (h : s.plan q = .ok (count, select)) :
    ∃ l, count.Follows s (.count l) ∧ select.Follows s (.page l q.page) := by
  obtain ⟨conds, params, -, hbind, rfl, rfl⟩ := plan_eq_ok_iff.1 h
  obtain ⟨l, hnames, hl, hparams⟩ := exists_compared hbind
  exact ⟨l, countRows_follows hnames hl hparams, selectPage_follows hnames hl hparams q.page⟩

theorem selectById_follows {id : String} {key : Param} (h : s.readId id = .ok key) :
    ∃ c, (selectById s key).Follows s (.lookup c) := by
  obtain ⟨c, hc, hkey⟩ := admits_of_readId h
  exact ⟨c, Circulation.selectById_follows hc hkey⟩

theorem lookup_follows {id : String} {select : Statement} (h : s.lookup id = .ok select) :
    ∃ c, select.Follows s (.lookup c) := by
  obtain ⟨key, hkey, rfl⟩ := lookup_eq_ok_iff.1 h
  exact selectById_follows hkey

/-- **A row is written back to the columns that it and the changes have.** -/
theorem writeBack_follows {id : String} {key : Param} {row changes : Record} {st : Statement}
    (hkey : s.readId id = .ok key) (h : s.writeBack key row changes = .ok st) :
    ∃ c, st.Follows s (.change (s.writable (Record.merge (s.known row) changes)) c) := by
  obtain ⟨c, hc, hadmits⟩ := admits_of_readId hkey
  obtain ⟨values, hvalues, hupdate⟩ := writeBack_eq_ok_iff.1 h
  exact ⟨c, updateById_follows hc hadmits (map_fst_of_writeValues hvalues) writable_subset
    (admits_of_writeValues hvalues) hupdate⟩

/-- **A new row fills columns of its resource.** -/
theorem creation_follows {today : Date} {attributes : Record} {st : Statement}
    (h : s.creation today attributes = .ok st) : ∃ l, st.Follows s (.insertion l) := by
  obtain ⟨changes, values, -, -, hvalues, hinsert⟩ := creation_eq_ok_iff.1 h
  exact ⟨_, insertRow_follows (map_fst_of_writeValues hvalues) writable_subset
    (admits_of_writeValues hvalues) hinsert⟩

end Schema

/-! ### Requests -/

/-- The resource that a request is about. -/
def Request.schema? : Request → Option Schema
  | operation r _ => some r.schema
  | explanation collection _ _ => Schema.ofCollection? collection

/-- The page that a request asks for. -/
def Request.page? : Request → Option Page
  | operation _ (.list q) => some q.page
  | explanation _ query none => (queryOf? query).toOption.map Query.page
  | _ => none

/-- A statement that follows a phrase of a resource, on the page that is asked for if on any. -/
def Statement.Bound (s : Schema) (page? : Option Page) (st : Statement) : Prop :=
  ∃ p, st.Follows s p ∧ ∀ page ∈ p.page?, page? = some page

section Requests

variable {s : Schema} {log : List Exchange} {page? : Option Page}

/-- A phrase without a page is on any page. -/
theorem Statement.Follows.bound {st : Statement} {p : Phrase} (h : st.Follows s p)
    (hp : p.page? = none) : st.Bound s page? := by
  refine ⟨p, h, ?_⟩
  intro page hpage
  rw [hp] at hpage
  cases hpage

/-- Where nothing is executed, nothing is left to show. -/
theorem bound_of_eq_nil {l : List Statement} (h : l = []) : ∀ st ∈ l, st.Bound s page? := by
  intro st hst
  rw [h] at hst
  cases hst

theorem bound_of_plan {q : Query} {count select : Statement} (h : s.plan q = .ok (count, select)) :
    ∀ st ∈ [count, select], st.Bound s (some q.page) := by
  obtain ⟨l, hcount, hselect⟩ := Schema.plan_follows h
  refine List.forall_mem_cons.2 ⟨hcount.bound rfl, List.forall_mem_singleton.2 ?_⟩
  -- the second statement has a page, and it is that of the query
  refine ⟨_, hselect, ?_⟩
  rintro page ⟨⟩
  rfl

theorem bound_of_lookup {id : String} {select : Statement} (h : s.lookup id = .ok select) :
    ∀ st ∈ [select], st.Bound s page? := by
  obtain ⟨c, hselect⟩ := Schema.lookup_follows h
  exact List.forall_mem_singleton.2 (hselect.bound rfl)

theorem GetCourse.bound {id : String} {a : Answer (Option Record)} (h : GetCourse s id log a) :
    ∀ st ∈ statementsOf log, st.Bound s page? := by
  obtain hnil | ⟨select, hselect, hl⟩ := h.statements
  · exact bound_of_eq_nil hnil
  · rw [hl]
    exact bound_of_lookup hselect

theorem ListCourse.bound {q : Query} {a : Answer (PageOf Record)} (h : ListCourse s q log a) :
    ∀ st ∈ statementsOf log, st.Bound s (some q.page) := by
  obtain hnil | ⟨count, select, hplan, hl⟩ := h.statements
  · exact bound_of_eq_nil hnil
  · intro st hst
    exact bound_of_plan hplan st (hl.subset hst)

theorem CreateCourse.bound {r : Repository} {attributes : Record} {a : Answer Record}
    (h : CreateCourse r attributes log a) : ∀ st ∈ statementsOf log, st.Bound r.schema page? := by
  obtain hnil | ⟨insert, hinsert, hl⟩ := h.statements
  · exact bound_of_eq_nil hnil
  · obtain ⟨l, hfollows⟩ := Schema.creation_follows hinsert
    rw [hl]
    exact List.forall_mem_singleton.2 (hfollows.bound rfl)

theorem UpdateCourse.bound {id : String} {attributes : Record} {a : Answer (Option Record)}
    (h : UpdateCourse s id attributes log a) : ∀ st ∈ statementsOf log, st.Bound s page? := by
  obtain hnil | ⟨key, changes, hkey, -, hl⟩ := h.statements
  · exact bound_of_eq_nil hnil
  · obtain ⟨c, hselect⟩ := Schema.selectById_follows hkey
    obtain hone | ⟨found, row, update, -, -, hupdate, hl⟩ := hl
    · rw [hone]
      exact List.forall_mem_singleton.2 (hselect.bound rfl)
    · -- look-up, update and second look-up, as far as the update gets
      obtain ⟨c', hfollows⟩ := Schema.writeBack_follows hkey hupdate
      intro st hst
      have hmem := hl.subset hst
      simp only [List.mem_cons, List.not_mem_nil, or_false] at hmem
      rcases hmem with rfl | rfl | rfl
      · exact hselect.bound rfl
      · exact hfollows.bound rfl
      · exact hselect.bound rfl

end Requests

/-- What an operation executes is bound. -/
theorem Operation.bound {σ : Type} (r : Repository) (op : Operation) (b : Backend σ) (store : σ) :
    ∀ st ∈ ((op.session r).run b store).statements,
      st.Bound r.schema (Request.page? (.operation r op)) := by
  rw [Session.statements_run]
  have hpath := Session.path_run b (op.session r) store
  cases op with
  | list q => exact (ListCourse.of_path hpath).bound
  | get id => exact (GetCourse.of_path hpath).bound
  | update id attributes => exact (UpdateCourse.of_path hpath).bound
  | create attributes => exact (CreateCourse.of_path hpath).bound

/-- What an explanation shows is bound. -/
theorem explanation_bound (collection query : String) (id : Option String) {s : Schema}
    (hs : Schema.ofCollection? collection = some s) :
    ∀ st ∈ explainedStatements collection query id,
      st.Bound s (Request.page? (.explanation collection query id)) := by
  cases id with
  | none =>
      obtain hnil | ⟨s', pairs, count, select, hs', hpairs, hplan, hl⟩ :=
        explainedStatements_none collection query
      · exact bound_of_eq_nil hnil
      · obtain rfl : s = s' := Option.some.inj (hs.symm.trans hs')
        have hpage : Request.page? (.explanation collection query none) =
            some (Query.ofPairs pairs).page := by
          simp only [Request.page?, queryOf?, hpairs]
          rfl
        rw [hl, hpage]
        exact bound_of_plan hplan
  | some id =>
      obtain hnil | ⟨s', select, hs', hselect, hl⟩ := explainedStatements_some collection query id
      · exact bound_of_eq_nil hnil
      · obtain rfl : s = s' := Option.some.inj (hs.symm.trans hs')
        rw [hl]
        exact bound_of_lookup hselect

/-- **Every statement of a request follows a phrase of its resource**, on the page that the request
asks for, and has one placeholder for each of its parameters, in their order. -/
theorem statements_bound {σ : Type} (x : Request) {s : Schema} (hx : x.schema? = some s)
    (hs : s ∈ catalogue) (b : Backend σ) (store : σ) :
    ∀ st ∈ x.statements b store,
      placeholdersIn st.sql.toList = (List.range' 1 st.params.length).map placeholder ∧
        ∃ p, st.Follows s p ∧ ∀ page ∈ p.page?, x.page? = some page := by
  intro st hst
  have hbound : st.Bound s x.page? := by
    cases x with
    | operation r op =>
        obtain rfl : r.schema = s := Option.some.inj hx
        exact Operation.bound r op b store st hst
    | explanation collection query id => exact explanation_bound collection query id hx st hst
  obtain ⟨p, hp, hpage⟩ := hbound
  exact ⟨hp.placeholders (plainNames_of_mem_catalogue hs), p, hp, hpage⟩

/-- A list of the books with a word in their title, its third page. -/
def thirdPage : Request :=
  .operation ⟨books, ⟨2024, 5, 17, Calendar.exists_seventeenthOfMay⟩⟩
    (.list (.ofPairs [("filter[title][like]", "dune"), ("page[number]", "3")]))

/-- A store that counts sixty rows. -/
def sixtyRows : Script := ⟨[], [.now (.ofRows [.ofList [("total", .num (.int 60))]])], [], []⟩

/-- Both statements of a list are bound: the pattern stands in both, the page in the second. -/
theorem thirdPage_bound :
    let found := thirdPage.statements (Script.backend (.ofSeconds 5)) sixtyRows
    (thirdPage.schema? = some books ∧ books ∈ catalogue) ∧
      found.map Statement.params =
        [[.text "%dune%"], [.text "%dune%", .int 50, .int 25]] ∧
      ∀ st ∈ found,
        placeholdersIn st.sql.toList = (List.range' 1 st.params.length).map placeholder ∧
          ∃ p, st.Follows books p ∧ ∀ page ∈ p.page?, thirdPage.page? = some page := by
  refine ⟨⟨rfl, by decide⟩, by decide +kernel, ?_⟩
  exact statements_bound thirdPage rfl (by decide) _ _

end Circulation
