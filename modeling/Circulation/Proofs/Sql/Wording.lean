/-
**The words of a statement: what its text depends on.**

The text of a statement is made from names: the table, columns, and operators.  The values go beside
the text as parameters.  For each kind of statement it is shown here that two statements with the
same names have the same text, whatever their values are, and which names a request fixes.

Main definitions:

* `Statement.SameText` — two statements of one kind with one text;
* `Query.filterNames` — the names and operators of the filters of a query;
* `Record.SameNames` — two records with the same names.

Main results:

* `filterNames_ofPairs_congr` — the keys of a query fix its filter names;
* `plan_sameText`, `lookup_sameText`, `writeBack_sameText`, `creation_sameText` — **names fix the
  text** of every statement that a request makes.
-/

import Circulation.Proofs.Schema.Typing

set_option relaxedAutoImplicit false
set_option autoImplicit false

namespace Circulation

/-! ### Texts -/

/-- Two statements of one kind with one text; their parameters may differ. -/
def Statement.SameText (s t : Statement) : Prop := s.kind = t.kind ∧ s.sql = t.sql

/-- The column and the comparison of a condition, without its value. -/
def Condition.heading (c : Condition) : String × Filter.Comparison := (c.column, c.comparison)

/-- The text of a condition shows its heading only. -/
theorem Condition.sql_congr {c d : Condition} (h : c.heading = d.heading) (index : Nat) :
    c.sql index = d.sql index := by
  obtain ⟨hcolumn, hcomparison⟩ := Prod.mk.inj h
  rw [Condition.sql, Condition.sql, hcolumn, hcomparison]

theorem conditionTexts_congr {cs ds : List Condition}
    (h : cs.map Condition.heading = ds.map Condition.heading) (index : Nat) :
    conditionTexts index cs = conditionTexts index ds := by
  induction cs generalizing ds index with
  | nil =>
      obtain rfl : ds = [] := List.map_eq_nil_iff.1 h.symm
      rfl
  | cons c cs ih =>
      match ds, h with
      | d :: ds, h =>
          obtain ⟨hhead, htail⟩ := List.cons.inj h
          rw [conditionTexts, conditionTexts, Condition.sql_congr hhead, ih htail]

/-- The text of conditions shows their headings only. -/
theorem whereSql_congr {cs ds : List Condition}
    (h : cs.map Condition.heading = ds.map Condition.heading) : whereSql cs = whereSql ds := by
  match cs, ds, h with
  | [], [], _ => rfl
  | c :: cs, d :: ds, h => rw [whereSql, whereSql, conditionTexts_congr h]

theorem nextPlaceholder_congr {cs ds : List Condition}
    (h : cs.map Condition.heading = ds.map Condition.heading) :
    nextPlaceholder cs = nextPlaceholder ds := by
  rw [nextPlaceholder, nextPlaceholder, length_eq_of_map_eq_map h]

/-! ### The names of a query -/

/-- The names that the filters of a query are on, with their operators. -/
def Query.filterNames (q : Query) : List (String × Filter.Operator) :=
  q.filters.image Filter.Descriptor.op

/-- The operator of a filter is given by its token. -/
theorem Filter.Descriptor.op_ofToken (token : Option String) (value value' : String) :
    (Descriptor.ofToken token value).op = (Descriptor.ofToken token value').op := by
  cases token <;> rfl

theorem Query.filterNames_insert_congr {q q' : Query} (h : q.filterNames = q'.filterNames)
    (key value value' : String) :
    (q.insert key value).filterNames = (q'.insert key value').filterNames := by
  unfold Query.insert
  cases Filter.Target.ofKey key with
  | param key => exact h
  | filter name token =>
      unfold Query.filterNames at h ⊢
      rw [Dict.image_insert, Dict.image_insert, h, Filter.Descriptor.op_ofToken token value value']

/-- **The keys of a query fix the names and operators of its filters.** -/
theorem Query.filterNames_ofPairs_congr {pairs pairs' : List (String × String)}
    (h : pairs.map Prod.fst = pairs'.map Prod.fst) :
    (Query.ofPairs pairs).filterNames = (Query.ofPairs pairs').filterNames := by
  -- the same from any two queries to begin with that have the same names
  suffices ∀ q q' : Query, q.filterNames = q'.filterNames →
      (pairs.foldl (fun q p => q.insert p.1 p.2) q).filterNames =
        (pairs'.foldl (fun q p => q.insert p.1 p.2) q').filterNames from
    this Query.empty Query.empty rfl
  induction pairs generalizing pairs' with
  | nil =>
      intro q q' hq
      obtain rfl : pairs' = [] := List.map_eq_nil_iff.1 h.symm
      exact hq
  | cons p pairs ih =>
      intro q q' hq
      match pairs', h with
      | p' :: pairs', h =>
          obtain ⟨hkey, htail⟩ := List.cons.inj h
          rw [List.foldl_cons, List.foldl_cons, hkey]
          exact ih htail _ _ (Query.filterNames_insert_congr hq p'.1 p.2 p'.2)

/-- The filter names of a query fix the headings of its conditions. -/
theorem heading_of_conditionsOf {filters : Dict Filter.Descriptor} {conds : List Condition}
    (h : conditionsOf filters = .ok conds) :
    conds.map (fun c => (c.column, some c.comparison)) =
      (filters.image Filter.Descriptor.op).map fun e =>
        (toStorageCasing e.1, e.2.comparison?) := by
  have hconds := Schema.conditionsOf_eq_ok_iff.1 h
  rw [Dict.image, List.map_map]
  generalize filters.toList = entries at hconds
  clear h
  induction hconds with
  | nil => rfl
  | cons he _ ih =>
      obtain ⟨-, hop, hcolumn, -⟩ := Schema.ofFilter_eq_ok_iff.1 he
      rw [List.map_cons, List.map_cons, ih, Function.comp_apply, hop, hcolumn]

theorem heading_congr {q q' : Query} (hq : q.filterNames = q'.filterNames)
    {conds conds' : List Condition} (h : conditionsOf q.filters = .ok conds)
    (h' : conditionsOf q'.filters = .ok conds') :
    conds.map Condition.heading = conds'.map Condition.heading := by
  have hsome : conds.map (fun c => (c.column, some c.comparison)) =
      conds'.map (fun c => (c.column, some c.comparison)) := by
    rw [heading_of_conditionsOf h, heading_of_conditionsOf h']
    exact congrArg _ hq
  have hinj : Function.Injective fun x : String × Filter.Comparison => (x.1, some x.2) := by
    rintro ⟨a, b⟩ ⟨c, d⟩ he
    simpa using he
  refine List.map_injective_iff.2 hinj ?_
  rw [List.map_map, List.map_map]
  exact hsome

/-! ### The names of a record -/

/-- Two records with the same names. -/
def Record.SameNames (r r' : Record) : Prop := ∀ name, r.contains name = r'.contains name

namespace Record.SameNames

variable {r r' : Record}

/-- Respelling keeps names apart or joins them without looking at the values. -/
theorem toStorage (h : r.keys = r'.keys) :
    SameNames (Record.toStorage r) (Record.toStorage r') := by
  intro name
  rw [Record.toStorage, Record.toStorage, Dict.contains_mapKeys, Dict.contains_mapKeys, h]

theorem erase (h : SameNames r r') (key : String) : SameNames (r.erase key) (r'.erase key) := by
  intro name
  rw [Dict.contains_erase, Dict.contains_erase, h name]

theorem merge {changes changes' : Record} (h : SameNames r r') (hc : SameNames changes changes') :
    SameNames (Record.merge r changes) (Record.merge r' changes') := by
  intro name
  rw [Record.merge, Record.merge, Dict.contains_union, Dict.contains_union, h name, hc name]

end Record.SameNames

namespace Schema

variable {s : Schema}

/-- With a value of a new row a name is there, whether it was there before or not. -/
theorem contains_putInitial (today : Date) (r : Record) (i : Initial) (name : String) :
    (putInitial today r i).contains name = (decide (i.column = name) || r.contains name) := by
  unfold putInitial
  cases i.value with
  | text t => exact Dict.contains_insert r i.column name _
  | bool b => exact Dict.contains_insert r i.column name _
  | today =>
      -- the day fills a gap only, so where it is left out the name is there already
      simp only
      split
      · exact Dict.contains_insert r i.column name _
      · next hmissing =>
          by_cases hname : i.column = name
          · have hfalse : r.isMissing i.column = false := by simpa using hmissing
            obtain ⟨v, hv, -⟩ := (Record.isMissing_eq_false_iff r i.column).1 hfalse
            simp [← hname, Dict.contains_eq_isSome, hv]
          · simp [hname]

theorem contains_withInitial (today : Date) (r : Record) (name : String) :
    (s.withInitial today r).contains name =
      (r.contains name || decide (name ∈ s.initial.map Initial.column)) := by
  unfold withInitial
  induction s.initial generalizing r with
  | nil => simp
  | cons i is ih =>
      rw [List.foldl_cons, ih, contains_putInitial, List.map_cons]
      by_cases h : i.column = name
      · simp [h]
      · have hne : ¬name = i.column := fun hk => h hk.symm
        simp only [h, decide_false, Bool.false_or, List.mem_cons, hne, false_or]

/-- The names of a record fix the columns that it writes. -/
theorem writable_congr {r r' : Record} (h : r.SameNames r') : s.writable r = s.writable r' := by
  unfold writable
  refine List.filter_congr fun c _ => ?_
  rw [h c.name]

theorem map_fst_writeValues_congr {r r' : Record} (h : r.SameNames r')
    {values values' : List (String × Param)} (hv : s.writeValues r = .ok values)
    (hv' : s.writeValues r' = .ok values') : values.map Prod.fst = values'.map Prod.fst := by
  rw [map_fst_of_writeValues hv, map_fst_of_writeValues hv', writable_congr h]

/-! ### Names fix texts -/

/-- **The filter names fix the texts of a list**; the page does not show in them. -/
theorem plan_sameText {q q' : Query} (hq : q.filterNames = q'.filterNames)
    {count select count' select' : Statement} (h : s.plan q = .ok (count, select))
    (h' : s.plan q' = .ok (count', select')) :
    count.SameText count' ∧ select.SameText select' := by
  obtain ⟨conds, params, hconds, -, rfl, rfl⟩ := plan_eq_ok_iff.1 h
  obtain ⟨conds', params', hconds', -, rfl, rfl⟩ := plan_eq_ok_iff.1 h'
  have hheading := heading_congr hq hconds hconds'
  have hwhere := whereSql_congr hheading
  have hnext := nextPlaceholder_congr hheading
  refine ⟨⟨rfl, ?_⟩, ⟨rfl, ?_⟩⟩
  · simp only [countRows, hwhere]
  · simp only [selectPage, hwhere, hnext]

/-- **All look-ups have one text.** -/
theorem lookup_sameText {id id' : String} {select select' : Statement}
    (h : s.lookup id = .ok select) (h' : s.lookup id' = .ok select') :
    select.SameText select' := by
  obtain ⟨key, -, rfl⟩ := lookup_eq_ok_iff.1 h
  obtain ⟨key', -, rfl⟩ := lookup_eq_ok_iff.1 h'
  exact ⟨rfl, rfl⟩

theorem updateById_sameText {key key' : Param} {values values' : List (String × Param)}
    (hv : values.map Prod.fst = values'.map Prod.fst) {st st' : Statement}
    (h : updateById s key values = .ok st) (h' : updateById s key' values' = .ok st') :
    st.SameText st' := by
  have hlength := length_eq_of_map_eq_map hv
  obtain ⟨-, rfl⟩ := updateById_eq_ok_iff.1 h
  obtain ⟨-, rfl⟩ := updateById_eq_ok_iff.1 h'
  refine ⟨rfl, ?_⟩
  simp only [hv, hlength]

theorem insertRow_sameText {values values' : List (String × Param)}
    (hv : values.map Prod.fst = values'.map Prod.fst) {st st' : Statement}
    (h : insertRow s values = .ok st) (h' : insertRow s values' = .ok st') :
    st.SameText st' := by
  have hlength := length_eq_of_map_eq_map hv
  obtain ⟨-, rfl⟩ := insertRow_eq_ok_iff.1 h
  obtain ⟨-, rfl⟩ := insertRow_eq_ok_iff.1 h'
  refine ⟨rfl, ?_⟩
  simp only [hv, hlength]

theorem changes_sameNames {a a' : Record} (ha : a.keys = a'.keys) {changes changes' : Record}
    (h : s.changes a = .ok changes) (h' : s.changes a' = .ok changes') :
    changes.SameNames changes' := by
  obtain ⟨rfl, -⟩ := changes_eq_ok_iff.1 h
  obtain ⟨rfl, -⟩ := changes_eq_ok_iff.1 h'
  exact (Record.SameNames.toStorage ha).erase s.primaryKey

/-- **The names of changes fix the text that writes them over a row.** -/
theorem writeBack_sameText {row changes changes' : Record} (hc : changes.SameNames changes')
    {key key' : Param} {st st' : Statement} (h : s.writeBack key row changes = .ok st)
    (h' : s.writeBack key' row changes' = .ok st') : st.SameText st' := by
  obtain ⟨values, hvalues, h⟩ := writeBack_eq_ok_iff.1 h
  obtain ⟨values', hvalues', h'⟩ := writeBack_eq_ok_iff.1 h'
  have hnames : Record.SameNames (Record.merge (s.known row) changes)
      (Record.merge (s.known row) changes') := Record.SameNames.merge (fun _ => rfl) hc
  exact updateById_sameText (map_fst_writeValues_congr hnames hvalues hvalues') h h'

/-- **The names of attributes fix the text that inserts them**; the day does not show in it. -/
theorem creation_sameText {a a' : Record} (ha : a.keys = a'.keys) {today today' : Date}
    {st st' : Statement} (h : s.creation today a = .ok st) (h' : s.creation today' a' = .ok st') :
    st.SameText st' := by
  obtain ⟨changes, values, hchanges, -, hvalues, h⟩ := creation_eq_ok_iff.1 h
  obtain ⟨changes', values', hchanges', -, hvalues', h'⟩ := creation_eq_ok_iff.1 h'
  have hnames : Record.SameNames (s.withInitial today changes) (s.withInitial today' changes') := by
    intro name
    rw [contains_withInitial, contains_withInitial, changes_sameNames ha hchanges hchanges' name]
  exact insertRow_sameText (map_fst_writeValues_congr hnames hvalues hvalues') h h'

end Schema

end Circulation
