/-
**What a partial update writes.**

An update writes a row back as a whole: the columns that the row has, and over them the columns that
the client changes.  What the row holds beside the columns of the schema is left out, and so is the
primary key, which stands in the condition of the statement only.

Main definitions:

* `Schema.merged`, `mergedValue` — the columns that are written, and the value of each;
* `assigning` — the statement that gives columns their values in the row of a key.

Main results:

* `mem_map_name_merged_iff`, `nodup_map_name_merged` — which columns are written, each of them once;
* `writeBack_eq_ok_iff_merged` — **the statement that writes a row back gives exactly these columns
  exactly these values**, and there is one if there is a column and every value does for its column.
* `cause_of_writeBack` — what stands in the way when there is none.
-/

import Circulation.Proofs.Sql.Building

set_option relaxedAutoImplicit false
set_option autoImplicit false

namespace Circulation

/-! ### Lists worked off to their end or not -/

/-- Every entry gives something, or there is one that is refused. -/
theorem forall₂_ok_or_exists_error {ε α β : Type} (f : α → Except ε β) (l : List α) :
    (∃ r, List.Forall₂ (fun a b => f a = .ok b) l r) ∨ ∃ a ∈ l, ∃ e, f a = .error e := by
  induction l with
  | nil => exact Or.inl ⟨[], .nil⟩
  | cons a l ih =>
      cases hf : f a with
      | error e => exact Or.inr ⟨a, List.mem_cons_self, e, hf⟩
      | ok b =>
          rcases ih with ⟨r, hr⟩ | ⟨a', ha', e, he⟩
          · exact Or.inl ⟨b :: r, .cons hf hr⟩
          · exact Or.inr ⟨a', List.mem_cons_of_mem a ha', e, he⟩

/-- Where every entry gives something, none is refused. -/
theorem not_error_of_forall₂_ok {ε α β : Type} {f : α → Except ε β} {l : List α} {r : List β}
    (h : List.Forall₂ (fun a b => f a = .ok b) l r) {a : α} (ha : a ∈ l) (e : ε) :
    f a ≠ .error e := by
  induction h with
  | nil => exact absurd ha List.not_mem_nil
  | cons hb _ ih =>
      rcases List.mem_cons.1 ha with rfl | ha
      · rw [hb]
        intro he
        cases he
      · exact ih ha

/-! ### The columns that are written -/

/-- The value that a column gets: the changed one, or else the one that the row has. -/
def mergedValue (row changes : Record) (c : Column) : Json :=
  (changes.get? c.name).getD (row.valueOf c.name)

/-- The statement that gives columns their values in the row of a key. -/
def assigning (s : Schema) (columns : List Column) (params : List Param) (key : Param) :
    Statement where
  kind := .command
  sql := "UPDATE " ++ s.table ++ " SET " ++
    Text.joinWith ", " (slotTexts assignmentFront 1 columns) ++ " WHERE " ++ s.primaryKey ++
    " = " ++ placeholder (columns.length + 1)
  params := params ++ [key]

namespace Schema

variable {s : Schema} {row changes : Record}

/-- The columns that are written: those of the row and of the changes, without the primary key. -/
def merged (s : Schema) (row changes : Record) : List Column :=
  s.columns.filter fun c =>
    decide (c.name ≠ s.primaryKey) && (changes.contains c.name || row.contains c.name)

theorem isSome_column?_iff {name : String} :
    (s.column? name).isSome = true ↔ ∃ c ∈ s.columns, c.name = name := by
  simp [column?]

/-- **Which columns are written**: those of the row that the schema knows, and all that are
changed. -/
theorem mem_map_name_merged_iff
    (hchanges : ∀ name, changes.contains name = true → (s.column? name).isSome = true)
    (name : String) :
    name ∈ (s.merged row changes).map Column.name ↔ name ≠ s.primaryKey ∧
      (changes.contains name = true ∨
        (s.column? name).isSome = true ∧ row.contains name = true) := by
  constructor
  · intro h
    obtain ⟨c, hc, rfl⟩ := List.mem_map.1 h
    obtain ⟨hmem, hp⟩ := List.mem_filter.1 hc
    have hsome : (s.column? c.name).isSome = true := isSome_column?_iff.2 ⟨c, hmem, rfl⟩
    simp only [Bool.and_eq_true, decide_eq_true_eq, Bool.or_eq_true] at hp
    obtain ⟨hkey, hin | hin⟩ := hp
    · exact ⟨hkey, Or.inl hin⟩
    · exact ⟨hkey, Or.inr ⟨hsome, hin⟩⟩
  · rintro ⟨hkey, hin⟩
    have hsome : (s.column? name).isSome = true := by
      rcases hin with hin | ⟨hsome, -⟩
      · exact hchanges name hin
      · exact hsome
    obtain ⟨c, hc, rfl⟩ := isSome_column?_iff.1 hsome
    refine List.mem_map_of_mem (List.mem_filter.2 ⟨hc, ?_⟩)
    simp only [Bool.and_eq_true, decide_eq_true_eq, Bool.or_eq_true]
    exact ⟨hkey, hin.imp_right And.right⟩

theorem merged_sublist : (s.merged row changes).Sublist s.columns := List.filter_sublist

/-- The columns of a resource have different names. -/
theorem nodup_map_name (hs : s ∈ catalogue) : (s.columns.map Column.name).Nodup := by
  have hall : ∀ s ∈ catalogue, (s.columns.map Column.name).Nodup := by decide
  exact hall s hs

/-- The primary key is a column. -/
theorem isSome_column?_primaryKey (hs : s ∈ catalogue) :
    (s.column? s.primaryKey).isSome = true := by
  have hall : ∀ s ∈ catalogue, (s.column? s.primaryKey).isSome = true := by decide
  exact hall s hs

/-- Every column is written once. -/
theorem nodup_map_name_merged (hs : s ∈ catalogue) :
    ((s.merged row changes).map Column.name).Nodup :=
  (nodup_map_name hs).sublist (merged_sublist.map Column.name)

theorem nodup_map_name_writable (hs : s ∈ catalogue) (r : Record) :
    ((s.writable r).map Column.name).Nodup :=
  (nodup_map_name hs).sublist (List.filter_sublist.map Column.name)

/-! ### The values that are written -/

/-- Under the name of a column the merged record has the changed value or that of the row. -/
theorem get?_merge_known {c : Column} (hc : c ∈ s.columns) :
    (Record.merge (s.known row) changes).get? c.name =
      (changes.get? c.name).or (row.get? c.name) := by
  have hsome : (s.column? c.name).isSome = true := isSome_column?_iff.2 ⟨c, hc, rfl⟩
  have hknown : (s.known row).get? c.name = row.get? c.name := by
    rw [known, Dict.get?_filter, if_pos hsome]
  rw [Record.merge, Dict.get?_union, hknown]

/-- The merged record holds the merged columns with their values. -/
theorem present_merge :
    s.present (Record.merge (s.known row) changes) =
      (s.merged row changes).map fun c => (c, mergedValue row changes c) := by
  unfold present merged
  rw [← List.filterMap_eq_map, List.filterMap_filter]
  refine List.filterMap_congr ?_
  intro c hc
  rw [get?_merge_known hc]
  -- the key is left out; a changed value goes before that of the row
  by_cases hkey : c.name = s.primaryKey
  · simp [hkey]
  · cases hchange : changes.get? c.name with
    | some v => simp [hkey, hchange, mergedValue, Dict.contains_eq_isSome]
    | none =>
        cases hrow : row.get? c.name with
        | some v =>
            simp [hkey, hchange, hrow, mergedValue, Record.valueOf, Dict.contains_eq_isSome]
        | none => simp [hkey, hchange, hrow, Dict.contains_eq_isSome]

/-- The merged record holds nothing but columns. -/
theorem checkAttributes_merge
    (hchanges : ∀ name, changes.contains name = true → (s.column? name).isSome = true) :
    s.checkAttributes (Record.merge (s.known row) changes) = .ok () := by
  refine checkAttributes_eq_ok_iff.2 ?_
  intro name hname
  have hin := Dict.contains_iff_mem_keys.2 hname
  rw [Record.merge, Dict.contains_union, Bool.or_eq_true] at hin
  rcases hin with hin | hin
  · exact hchanges name hin
  · rw [Dict.contains_eq_isSome, known, Dict.get?_filter] at hin
    by_cases hsome : (s.column? name).isSome = true
    · exact hsome
    · rw [if_neg hsome] at hin
      cases hin

/-! ### The statement -/

/-- Values in the order of columns, under the names of the columns. -/
theorem exists_values {f : Column → Except Refusal Param} {l : List Column} {params : List Param}
    (h : List.Forall₂ (fun c p => f c = .ok p) l params) :
    ∃ values : List (String × Param), values.map Prod.fst = l.map Column.name ∧
      values.map Prod.snd = params ∧
        List.Forall₂ (fun c v => v.1 = c.name ∧ f c = .ok v.2) l values := by
  induction h with
  | nil => exact ⟨[], rfl, rfl, .nil⟩
  | @cons c p l params hp _ ih =>
      obtain ⟨values, hnames, hparams, hvalues⟩ := ih
      refine ⟨(c.name, p) :: values, ?_, ?_, .cons ⟨rfl, hp⟩ hvalues⟩
      · rw [List.map_cons, List.map_cons, hnames]
      · rw [List.map_cons, hparams]

/-- **A row is written back by giving the merged columns the merged values.** -/
theorem writeBack_eq_ok_iff_merged
    (hchanges : ∀ name, changes.contains name = true → (s.column? name).isSome = true)
    (key : Param) {st : Statement} :
    s.writeBack key row changes = .ok st ↔ s.merged row changes ≠ [] ∧ ∃ params,
      List.Forall₂ (fun c p => c.written (mergedValue row changes c) = .ok p)
        (s.merged row changes) params ∧
        st = assigning s (s.merged row changes) params key := by
  have hcheck : s.checkAttributes (Record.merge (s.known row) changes) = .ok () :=
    checkAttributes_merge hchanges
  rw [writeBack_eq_ok_iff]
  simp only [writeValues_eq_ok_iff, hcheck, true_and, present_merge, List.forall₂_map_left_iff,
    updateById_eq_ok_iff]
  constructor
  · rintro ⟨values, hvalues, hne, rfl⟩
    have hlength := hvalues.length_eq
    have hnames : values.map Prod.fst = (s.merged row changes).map Column.name :=
      map_eq_map_of_forall₂ hvalues fun c v hv => hv.1
    refine ⟨?_, values.map Prod.snd, ?_, ?_⟩
    · intro hnil
      rw [hnil] at hlength
      exact hne (List.length_eq_zero_iff.1 hlength.symm)
    · rw [List.forall₂_map_right_iff]
      exact hvalues.imp fun c v hv => hv.2
    · rw [hnames, assignmentTexts_eq, ← hlength]
      rfl
  · rintro ⟨hne, params, hparams, rfl⟩
    -- names and parameters are put together again
    obtain ⟨values, hnames, hsnd, hvalues⟩ := exists_values hparams
    have hlength := hvalues.length_eq
    refine ⟨values, hvalues, ?_, ?_⟩
    · intro hnil
      rw [hnil] at hlength
      exact hne (List.length_eq_zero_iff.1 hlength)
    · rw [hnames, hsnd, assignmentTexts_eq, ← hlength]
      rfl

/-- Nothing is written back when there is no column, or a value that is none of its column. -/
theorem exists_error_of_writeBack
    (hchanges : ∀ name, changes.contains name = true → (s.column? name).isSome = true)
    (key : Param) (h : s.merged row changes = [] ∨
      ∃ c ∈ s.merged row changes, ∃ why, c.written (mergedValue row changes c) = .error why) :
    ∃ why, s.writeBack key row changes = .error why := by
  cases hwrite : s.writeBack key row changes with
  | error why => exact ⟨why, rfl⟩
  | ok st =>
      obtain ⟨hne, params, hparams, -⟩ := (writeBack_eq_ok_iff_merged hchanges key).1 hwrite
      rcases h with hnil | ⟨c, hc, why, hwhy⟩
      · exact absurd hnil hne
      · exact absurd hwhy (not_error_of_forall₂_ok hparams hc why)

/-- What stops a row from being written back is that there is no column, or one of the values. -/
theorem cause_of_writeBack
    (hchanges : ∀ name, changes.contains name = true → (s.column? name).isSome = true)
    {key : Param} {why : Refusal} (h : s.writeBack key row changes = .error why) :
    s.merged row changes = [] ∧ why = .nothingToUpdate s.resource ∨
      ∃ c ∈ s.merged row changes, c.written (mergedValue row changes c) = .error why := by
  have hcheck : s.checkAttributes (Record.merge (s.known row) changes) = .ok () :=
    checkAttributes_merge hchanges
  rcases except_bind_eq_error_iff.1 h with hvalues | ⟨values, hvalues, hupdate⟩
  · -- the attributes are in order, so it is one of the values
    refine Or.inr ?_
    rcases except_bind_eq_error_iff.1 hvalues with he | ⟨u, -, he⟩
    · rw [hcheck] at he
      cases he
    obtain ⟨x, hx, he⟩ := exists_error_of_mapM he
    rw [present_merge] at hx
    obtain ⟨c, hc, rfl⟩ := List.mem_map.1 hx
    rcases except_bind_eq_error_iff.1 he with hwhy | ⟨p, -, hp⟩
    · exact ⟨c, hc, hwhy⟩
    · cases hp
  · -- every value does, so there is nothing to assign
    refine Or.inl ?_
    have hrows := (writeValues_eq_ok_iff.1 hvalues).2
    rw [present_merge, List.forall₂_map_left_iff] at hrows
    cases values with
    | nil =>
        cases hupdate
        exact ⟨List.length_eq_zero_iff.1 hrows.length_eq, rfl⟩
    | cons v values => cases hupdate

end Schema

end Circulation
