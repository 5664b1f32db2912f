/-
**What typing gives, and when it gives something.**

Identifiers, conditions and records become parameters in several steps, and each step may refuse.
Here every one of these functions has one statement that says exactly when it succeeds and with
what; proofs elsewhere use these statements and do not open the functions.

Main results:

* `mapM_eq_ok_iff`, `mapM_eq_error_iff` — a list is worked off entry by entry, up to the first that
  is refused;
* `type_of_param`, `type_of_written` — a value has the type of its column;
* `bind_eq_ok_iff`, `bindOne_eq_ok_iff` — the parameters of conditions;
* `writeValues_eq_ok_iff` — **the columns that a record writes, in the order of the schema**;
* `writeBack_eq_ok_iff`, `creation_eq_ok_iff`, `plan_eq_ok_iff` — the statements that requests make.
-/

import Circulation.Proofs.Dict
import Circulation.Store.Repository
import Mathlib.Data.List.Forall2

set_option relaxedAutoImplicit false
set_option autoImplicit false

namespace Circulation

/-! ### Steps that may refuse -/

section Steps

variable {ε α β : Type}

theorem except_bind_eq_ok_iff {x : Except ε α} {f : α → Except ε β} {b : β} :
    (x >>= f) = .ok b ↔ ∃ a, x = .ok a ∧ f a = .ok b := by
  cases x with
  | error e =>
      constructor
      · intro h
        cases h
      · rintro ⟨a, ha, -⟩
        cases ha
  | ok a =>
      constructor
      · intro h
        exact ⟨a, rfl, h⟩
      · rintro ⟨a', ha, h⟩
        cases ha
        exact h

theorem except_map_eq_ok_iff {x : Except ε α} {f : α → β} {b : β} :
    x.map f = .ok b ↔ ∃ a, x = .ok a ∧ b = f a := by
  cases x with
  | error e => simp [Except.map]
  | ok a => simp [Except.map, eq_comm]

theorem except_bind_eq_error_iff {x : Except ε α} {f : α → Except ε β} {e : ε} :
    (x >>= f) = .error e ↔ x = .error e ∨ ∃ a, x = .ok a ∧ f a = .error e := by
  cases x with
  | error e' =>
      constructor
      · intro h
        cases h
        exact Or.inl rfl
      · rintro (h | ⟨a, ha, -⟩)
        · cases h
          rfl
        · cases ha
  | ok a =>
      constructor
      · intro h
        exact Or.inr ⟨a, rfl, h⟩
      · rintro (h | ⟨a', ha, h⟩)
        · cases h
        · cases ha
          exact h

theorem eq_ok_of_toOption {x : Except ε α} {a : α} (h : x.toOption = some a) : x = .ok a := by
  cases x with
  | error e => cases h
  | ok a' =>
      obtain rfl := Option.some.inj h
      rfl

/-- A list is worked off entry by entry. -/
theorem mapM_eq_ok_iff {f : α → Except ε β} {l : List α} {r : List β} :
    l.mapM f = .ok r ↔ List.Forall₂ (fun a b => f a = .ok b) l r := by
  induction l generalizing r with
  | nil =>
      rw [List.mapM_nil, List.forall₂_nil_left_iff]
      constructor
      · intro h
        cases h
        rfl
      · rintro rfl
        rfl
  | cons a l ih =>
      rw [List.mapM_cons, except_bind_eq_ok_iff, List.forall₂_cons_left_iff]
      constructor
      · rintro ⟨b, hb, h⟩
        obtain ⟨bs, hbs, h⟩ := except_bind_eq_ok_iff.1 h
        cases h
        exact ⟨b, bs, hb, ih.1 hbs, rfl⟩
      · rintro ⟨b, bs, hb, hbs, rfl⟩
        exact ⟨b, hb, except_bind_eq_ok_iff.2 ⟨bs, ih.2 hbs, rfl⟩⟩

/-- **A list is worked off up to the first entry that is refused.** -/
theorem mapM_eq_error_iff {f : α → Except ε β} {l : List α} {e : ε} :
    l.mapM f = .error e ↔ ∃ front a back, l = front ++ a :: back ∧
      (∀ x ∈ front, ∃ b, f x = .ok b) ∧ f a = .error e := by
  induction l with
  | nil => exact iff_of_false nofun (by simp)
  | cons a l ih =>
      rw [List.mapM_cons, except_bind_eq_error_iff]
      constructor
      · rintro (ha | ⟨b, hb, h⟩)
        · exact ⟨[], a, l, rfl, by simp, ha⟩
        · rcases except_bind_eq_error_iff.1 h with hl | ⟨bs, -, hbs⟩
          · obtain ⟨front, a', back, rfl, hfront, he⟩ := ih.1 hl
            exact ⟨a :: front, a', back, rfl, List.forall_mem_cons.2 ⟨⟨b, hb⟩, hfront⟩, he⟩
          · cases hbs
      · rintro ⟨front, a', back, hl, hfront, he⟩
        cases front with
        | nil =>
            obtain ⟨rfl, rfl⟩ := List.cons.inj hl
            exact Or.inl he
        | cons x front =>
            obtain ⟨rfl, rfl⟩ := List.cons.inj hl
            obtain ⟨⟨b, hb⟩, hfront⟩ := List.forall_mem_cons.1 hfront
            exact Or.inr ⟨b, hb, except_bind_eq_error_iff.2
              (Or.inl (ih.2 ⟨front, a', back, rfl, hfront, he⟩))⟩

/-- What stops a list from being worked off is what stops one of its entries. -/
theorem exists_error_of_mapM {f : α → Except ε β} {l : List α} {e : ε} (h : l.mapM f = .error e) :
    ∃ a ∈ l, f a = .error e := by
  obtain ⟨front, a, back, rfl, -, he⟩ := mapM_eq_error_iff.1 h
  exact ⟨a, List.mem_append_right front List.mem_cons_self, he⟩

end Steps

/-! ### Lists that belong together -/

section Lists

variable {α β γ : Type} {f : α → γ} {g : β → γ} {l : List α} {r : List β}

/-- Related entries that agree in something make lists that agree in it. -/
theorem map_eq_map_of_forall₂ {R : α → β → Prop} (h : List.Forall₂ R l r)
    (hR : ∀ a b, R a b → g b = f a) : r.map g = l.map f := by
  induction h with
  | nil => rfl
  | cons hab _ ih => rw [List.map_cons, List.map_cons, hR _ _ hab, ih]

/-- Lists that agree in something are of one length. -/
theorem length_eq_of_map_eq_map (h : l.map f = r.map g) : l.length = r.length := by
  have hlength := congrArg List.length h
  rwa [List.length_map, List.length_map] at hlength

/-- Related lists have a partner for each entry. -/
theorem exists_mem_zip {R : α → β → Prop} (h : List.Forall₂ R l r) {a : α} (ha : a ∈ l) :
    ∃ b, (a, b) ∈ l.zip r ∧ R a b := by
  induction h with
  | nil => cases ha
  | @cons a' b l r hab _ ih =>
      rcases List.mem_cons.1 ha with rfl | ha
      · exact ⟨b, List.mem_cons_self, hab⟩
      · obtain ⟨b', hb', hR⟩ := ih ha
        exact ⟨b', List.mem_cons_of_mem _ hb', hR⟩

/-- A list is cut in one way only at its first entry with a property. -/
theorem cut_unique {p : β → Bool} {front front' back back' : List β} {x x' : β}
    (hfront : ∀ y ∈ front, p y = false) (hx : p x = true) (hfront' : ∀ y ∈ front', p y = false)
    (hx' : p x' = true) (h : front ++ x :: back = front' ++ x' :: back') :
    front = front' ∧ x = x' ∧ back = back' := by
  induction front generalizing front' with
  | nil =>
      cases front' with
      | nil =>
          obtain ⟨rfl, rfl⟩ := List.cons.inj h
          exact ⟨rfl, rfl, rfl⟩
      | cons y front' =>
          obtain ⟨rfl, -⟩ := List.cons.inj h
          rw [hfront' x List.mem_cons_self] at hx
          cases hx
  | cons y front ih =>
      cases front' with
      | nil =>
          obtain ⟨rfl, -⟩ := List.cons.inj h
          rw [hfront y List.mem_cons_self] at hx'
          cases hx'
      | cons y' front' =>
          obtain ⟨rfl, htail⟩ := List.cons.inj h
          obtain ⟨rfl, hrest⟩ := ih (fun z hz => hfront z (List.mem_cons_of_mem y hz))
            (fun z hz => hfront' z (List.mem_cons_of_mem y hz)) htail
          exact ⟨rfl, hrest⟩

end Lists

/-! ### One value -/

namespace Param

/-- The type of a value; a missing value has the type of its column. -/
def type : Param → ColumnType
  | null t => t
  | text _ => .text
  | int _ => .integer
  | bool _ => .boolean
  | date _ => .date

/-- Whether a value is missing. -/
def isNull : Param → Bool
  | null _ => true
  | _ => false

end Param

namespace Column

variable {c : Column} {v : Json} {p : Param}

theorem exists_of_textParam (h : c.textParam v = .ok p) : ∃ s, p = .text s := by
  unfold textParam at h
  split at h
  · exact ⟨_, (Except.ok.inj h).symm⟩
  · exact ⟨_, (Except.ok.inj h).symm⟩
  · exact ⟨_, (Except.ok.inj h).symm⟩
  · exact ⟨_, (Except.ok.inj h).symm⟩
  · cases h

theorem exists_of_intParam (h : c.intParam v = .ok p) : ∃ i, p = .int i := by
  unfold intParam at h
  extract_lets read? at h
  cases hread : read? with
  | none =>
      rw [hread] at h
      cases h
  | some i =>
      rw [hread] at h
      exact ⟨i, (Except.ok.inj h).symm⟩

theorem exists_of_boolParam (h : c.boolParam v = .ok p) : ∃ b, p = .bool b := by
  unfold boolParam at h
  split at h
  · exact ⟨_, (Except.ok.inj h).symm⟩
  · split at h
    · exact ⟨_, (Except.ok.inj h).symm⟩
    · split at h
      · exact ⟨_, (Except.ok.inj h).symm⟩
      · cases h
  · cases h

theorem exists_of_dateParam (h : c.dateParam v = .ok p) : ∃ d, p = .date d := by
  unfold dateParam at h
  split at h
  · split at h
    · exact ⟨_, (Except.ok.inj h).symm⟩
    · cases h
  · cases h

/-- **A value gets the type of its column**, and it is missing exactly when it is null. -/
theorem type_of_param (h : c.param v = .ok p) : p.type = c.type ∧ p.isNull = v.isNull := by
  unfold param at h
  -- a null value is missing in any column; another one is read by the type of the column
  by_cases hnull : v.isNull = true
  · rw [if_pos hnull] at h
    obtain rfl := Except.ok.inj h
    exact ⟨rfl, hnull.symm⟩
  · rw [if_neg hnull] at h
    have hfalse : v.isNull = false := by simpa using hnull
    rw [hfalse]
    cases htype : c.type with
    | text =>
        simp only [htype] at h
        obtain ⟨s, rfl⟩ := exists_of_textParam h
        exact ⟨rfl, rfl⟩
    | integer =>
        simp only [htype] at h
        obtain ⟨i, rfl⟩ := exists_of_intParam h
        exact ⟨rfl, rfl⟩
    | boolean =>
        simp only [htype] at h
        obtain ⟨b, rfl⟩ := exists_of_boolParam h
        exact ⟨rfl, rfl⟩
    | date =>
        simp only [htype] at h
        obtain ⟨d, rfl⟩ := exists_of_dateParam h
        exact ⟨rfl, rfl⟩

/-- Writing a column changes letters, never the type. -/
theorem type_of_written (h : c.written v = .ok p) : p.type = c.type := by
  obtain ⟨q, hq, rfl⟩ := except_map_eq_ok_iff.1 h
  rw [← (type_of_param hq).1]
  cases q <;> rfl

end Column

/-! ### Columns -/

namespace Schema

variable {s : Schema}

theorem knownColumn_eq_ok_iff {name : String} {c : Column} :
    s.knownColumn name = .ok c ↔ s.column? name = some c := by
  unfold knownColumn
  cases s.column? name <;> simp

/-- An identifier is read as a value of the primary key. -/
theorem readId_eq_ok_iff {id : String} {key : Param} :
    s.readId id = .ok key ↔
      ∃ c, s.column? s.primaryKey = some c ∧ c.param (.str id) = .ok key := by
  simp only [readId, except_bind_eq_ok_iff, knownColumn_eq_ok_iff]

theorem lookup_eq_ok_iff {id : String} {select : Statement} :
    s.lookup id = .ok select ↔ ∃ key, s.readId id = .ok key ∧ select = selectById s key :=
  except_map_eq_ok_iff

/-! ### Conditions -/

/-- An operator on texts takes the value as it is, any other one takes it as the column types it. -/
theorem bindOne_eq_ok_iff {cond : Condition} {p : Param} :
    s.bindOne cond = .ok p ↔ ∃ c, s.column? cond.column = some c ∧
      if cond.comparison.textOnly = true then c.type = .text ∧ p = .text cond.value
      else c.param (.str cond.value) = .ok p := by
  simp only [bindOne, except_bind_eq_ok_iff, knownColumn_eq_ok_iff]
  refine exists_congr fun c => and_congr_right fun _ => ?_
  -- an operator on texts asks for a column of texts and takes the value unread
  by_cases ht : cond.comparison.textOnly = true
  · by_cases hc : c.type = .text
    · simp only [ht, hc, if_true, true_and]
      constructor
      · intro h
        cases h
        rfl
      · rintro rfl
        rfl
    · simp only [ht, hc, if_true, if_false, false_and, iff_false]
      intro h
      cases h
  · rw [if_neg ht, if_neg ht]

theorem bind_eq_ok_iff {conds : List Condition} {params : List Param} :
    s.bind conds = .ok params ↔
      List.Forall₂ (fun cond p => s.bindOne cond = .ok p) conds params :=
  mapM_eq_ok_iff

/-- A filter makes a condition when its name spells a column and its operator is let through. -/
theorem ofFilter_eq_ok_iff {name : String} {d : Filter.Descriptor} {cond : Condition} :
    Condition.ofFilter name d = .ok cond ↔ isColumnName (toStorageCasing name) = true ∧
      d.op.comparison? = some cond.comparison ∧ cond.column = toStorageCasing name ∧
        cond.value = cond.comparison.bound d.value := by
  obtain ⟨column, comparison, value⟩ := cond
  unfold Condition.ofFilter
  by_cases hname : isColumnName (toStorageCasing name) = true
  · cases hop : d.op.comparison? with
    | none => simp [hname]
    | some c =>
        simp only [hname, if_true, true_and, Except.ok.injEq, Condition.mk.injEq,
          Option.some.injEq]
        constructor
        · rintro ⟨rfl, rfl, rfl⟩
          exact ⟨rfl, rfl, rfl⟩
        · rintro ⟨rfl, rfl, rfl⟩
          exact ⟨rfl, rfl, rfl⟩
  · simp [hname]

/-- The conditions of filters stand in the order of their names. -/
theorem conditionsOf_eq_ok_iff {filters : Dict Filter.Descriptor} {conds : List Condition} :
    conditionsOf filters = .ok conds ↔
      List.Forall₂ (fun e cond => Condition.ofFilter e.1 e.2 = .ok cond) filters.toList conds :=
  mapM_eq_ok_iff

/-- The two statements of a list share conditions and parameters. -/
theorem plan_eq_ok_iff {q : Query} {count select : Statement} :
    s.plan q = .ok (count, select) ↔ ∃ conds params, conditionsOf q.filters = .ok conds ∧
      s.bind conds = .ok params ∧ count = countRows s conds params ∧
        select = selectPage s conds params q.page := by
  simp only [plan, except_map_eq_ok_iff, bindQuery, except_bind_eq_ok_iff, Prod.exists,
    Prod.mk.injEq]
  constructor
  · rintro ⟨conds, params, ⟨conds', hconds, params', hparams, h⟩, hcount, hselect⟩
    cases h
    exact ⟨conds, params, hconds, hparams, hcount, hselect⟩
  · rintro ⟨conds, params, hconds, hparams, hcount, hselect⟩
    exact ⟨conds, params, ⟨conds, hconds, params, hparams, rfl⟩, hcount, hselect⟩

/-! ### Records -/

/-- Attributes are in order when each of them is a column. -/
theorem checkAttributes_eq_ok_iff {r : Record} :
    s.checkAttributes r = .ok () ↔ ∀ name ∈ r.keys, (s.column? name).isSome = true := by
  unfold checkAttributes
  cases h : r.keys.find? fun name => (s.column? name).isNone with
  | none =>
      refine iff_of_true rfl fun name hname => ?_
      have hnone := List.find?_eq_none.1 h name hname
      cases hc : s.column? name with
      | none => simp [hc] at hnone
      | some c => rfl
  | some name =>
      have hsome := List.find?_some h
      have hmem := List.mem_of_find?_eq_some h
      simp only [reduceCtorEq, false_iff, not_forall]
      exact ⟨name, hmem, by simpa using hsome⟩

/-- The changes of attributes, with the primary key left out. -/
theorem changes_eq_ok_iff {attributes changes : Record} :
    s.changes attributes = .ok changes ↔
      changes = (Record.toStorage attributes).erase s.primaryKey ∧
        s.checkAttributes changes = .ok () := by
  simp only [Schema.changes, except_bind_eq_ok_iff]
  constructor
  · rintro ⟨u, hcheck, h⟩
    cases h
    exact ⟨rfl, hcheck⟩
  · rintro ⟨rfl, hcheck⟩
    exact ⟨(), hcheck, rfl⟩

/-- What attributes change are columns. -/
theorem isSome_column?_of_changes {attributes changes : Record}
    (h : s.changes attributes = .ok changes) (name : String)
    (hname : changes.contains name = true) : (s.column? name).isSome = true :=
  checkAttributes_eq_ok_iff.1 (changes_eq_ok_iff.1 h).2 name (Dict.contains_iff_mem_keys.1 hname)

/-- The columns of a schema that a record writes. -/
def writable (s : Schema) (r : Record) : List Column :=
  s.columns.filter fun c => decide (c.name ≠ s.primaryKey) && r.contains c.name

theorem map_fst_present (r : Record) : (s.present r).map Prod.fst = s.writable r := by
  unfold present writable
  induction s.columns with
  | nil => rfl
  | cons c cs ih =>
      rw [List.filterMap_cons, List.filter_cons, Dict.contains_eq_isSome]
      by_cases hk : c.name = s.primaryKey
      · simp [hk, ih]
      · cases hg : r.get? c.name <;> simp [hk, ih]

/-- **A record writes its columns in the order of the schema, each as the column types it.** -/
theorem writeValues_eq_ok_iff {r : Record} {values : List (String × Param)} :
    s.writeValues r = .ok values ↔ s.checkAttributes r = .ok () ∧
      List.Forall₂ (fun x v => v.1 = x.1.name ∧ x.1.written x.2 = .ok v.2)
        (s.present r) values := by
  have hstep : ∀ (x : Column × Json) (v : String × Param),
      ((do let p ← x.1.written x.2; return (x.1.name, p)) : Except Refusal (String × Param)) =
          .ok v ↔ v.1 = x.1.name ∧ x.1.written x.2 = .ok v.2 := by
    rintro x ⟨name, p⟩
    rw [except_bind_eq_ok_iff]
    constructor
    · rintro ⟨p', hp', h⟩
      cases h
      exact ⟨rfl, hp'⟩
    · rintro ⟨rfl, hp⟩
      exact ⟨p, hp, rfl⟩
  simp only [writeValues, except_bind_eq_ok_iff, mapM_eq_ok_iff, hstep]
  constructor
  · rintro ⟨u, hcheck, h⟩
    exact ⟨hcheck, h⟩
  · rintro ⟨hcheck, h⟩
    exact ⟨(), hcheck, h⟩

/-- A record shows the columns that it writes with their values. -/
theorem present_eq_map (r : Record) :
    s.present r = (s.writable r).map fun c => (c, r.valueOf c.name) := by
  unfold present writable
  rw [← List.filterMap_eq_map, List.filterMap_filter]
  refine List.filterMap_congr ?_
  intro c hc
  by_cases hkey : c.name = s.primaryKey
  · simp [hkey]
  · cases hget : r.get? c.name <;>
      simp [hkey, hget, Record.valueOf, Dict.contains_eq_isSome]

/-- What a record writes, column by column. -/
theorem writeValues_eq_ok_iff_writable {r : Record} {values : List (String × Param)} :
    s.writeValues r = .ok values ↔ s.checkAttributes r = .ok () ∧
      List.Forall₂ (fun c v => v.1 = c.name ∧ c.written (r.valueOf c.name) = .ok v.2)
        (s.writable r) values := by
  rw [writeValues_eq_ok_iff, present_eq_map, List.forall₂_map_left_iff]

/-- The names of what a record writes do not depend on its values. -/
theorem map_fst_of_writeValues {r : Record} {values : List (String × Param)}
    (h : s.writeValues r = .ok values) : values.map Prod.fst = (s.writable r).map Column.name := by
  have hvalues := (writeValues_eq_ok_iff.1 h).2
  rw [← map_fst_present, List.map_map]
  exact map_eq_map_of_forall₂ hvalues fun x v hv => hv.1

/-! ### Statements that write -/

theorem updateById_eq_ok_iff {key : Param} {values : List (String × Param)} {st : Statement} :
    updateById s key values = .ok st ↔ values ≠ [] ∧
      st = { kind := .command
             sql := "UPDATE " ++ s.table ++ " SET " ++
               Text.joinWith ", " (assignmentTexts 1 (values.map (·.1))) ++
               " WHERE " ++ s.primaryKey ++ " = " ++ placeholder (values.length + 1)
             params := values.map (·.2) ++ [key] } := by
  unfold updateById
  cases values with
  | nil => simp
  | cons v values => simp [eq_comm]

theorem insertRow_eq_ok_iff {values : List (String × Param)} {st : Statement} :
    insertRow s values = .ok st ↔ values ≠ [] ∧
      st = { kind := .query
             sql := "INSERT INTO " ++ s.table ++ " (" ++ Text.joinWith ", " (values.map (·.1)) ++
               ") VALUES (" ++
               Text.joinWith ", " ((List.range' 1 values.length).map placeholder) ++
               ") RETURNING *"
             params := values.map (·.2) } := by
  unfold insertRow
  cases values with
  | nil => simp
  | cons v values => simp [eq_comm]

/-- A row is written back with changes put over the part of it that the schema knows. -/
theorem writeBack_eq_ok_iff {key : Param} {row changes : Record} {st : Statement} :
    s.writeBack key row changes = .ok st ↔ ∃ values,
      s.writeValues (Record.merge (s.known row) changes) = .ok values ∧
        updateById s key values = .ok st := by
  simp only [writeBack, except_bind_eq_ok_iff]

/-- A row is inserted with the values of a new row put over the changes. -/
theorem creation_eq_ok_iff {today : Date} {attributes : Record} {st : Statement} :
    s.creation today attributes = .ok st ↔ ∃ changes values,
      s.changes attributes = .ok changes ∧
        s.checkRequired (s.withInitial today changes) = .ok () ∧
        s.writeValues (s.withInitial today changes) = .ok values ∧ insertRow s values = .ok st := by
  simp only [creation, except_bind_eq_ok_iff]
  constructor
  · rintro ⟨changes, hchanges, u, hrequired, values, hvalues, h⟩
    exact ⟨changes, values, hchanges, hrequired, hvalues, h⟩
  · rintro ⟨changes, values, hchanges, hrequired, hvalues, h⟩
    exact ⟨changes, hchanges, (), hrequired, values, hvalues, h⟩

end Schema

end Circulation
