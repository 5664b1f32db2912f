/-
**What was read writes what is stored.**

A value that was written through its column comes back from the row as JSON, and from this JSON the
column makes the same parameter again.  So a row of written values, read back and written once more,
comes to the same values; and a row that was written back with changes is written back alike.

Main definitions:

* `Column.Stored` — a value that was written through a column.

Main results:

* `get?_assigned_of_stored` — columns that get the values that they have keep them;
* `Schema.writeValues_readRow?` — **what a record writes is written again by the row that it
  makes**;
* `Schema.writeBack_assigned` — **a row that was written back is written back alike**.
-/

import Circulation.Proofs.Schema.Merge
import Circulation.Proofs.Schema.Stored

set_option relaxedAutoImplicit false
set_option autoImplicit false

namespace Circulation

/-! ### What was written through a column -/

/-- A value that is read back where a column was written. -/
def Column.Stored (c : Column) (v : Json) : Prop :=
  ∃ given p, c.written given = .ok p ∧ v = p.stored

/-- A stored value makes the parameter that it was made of. -/
theorem Column.stored_iff {c : Column} {v : Json} :
    c.Stored v ↔ ∃ p, c.written v = .ok p ∧ v = p.stored := by
  constructor
  · rintro ⟨given, p, hp, rfl⟩
    exact ⟨p, written_stored hp, rfl⟩
  · rintro ⟨p, hp, hv⟩
    exact ⟨v, p, hp, hv⟩

section Assigned

variable {f : Column → Except Refusal Param} {columns : List Column} {params : List Param}

/-- Every column that is given a value holds it, each its own. -/
theorem forall₂_assigned (hparams : List.Forall₂ (fun c p => f c = .ok p) columns params)
    (hnodup : (columns.map Column.name).Nodup) (row : Record) :
    List.Forall₂
      (fun c p => f c = .ok p ∧ (assigned row columns params).get? c.name = some p.stored)
      columns params := by
  induction hparams generalizing row with
  | nil => exact .nil
  | @cons c p columns params hp hparams ih =>
      rw [List.map_cons, List.nodup_cons] at hnodup
      refine .cons ⟨hp, ?_⟩ (ih hnodup.2 (row.insert c.name p.stored))
      -- no later column has the same name
      rw [assigned_cons, get?_assigned_of_notMem hparams hnodup.1, Dict.get?_insert, if_pos rfl]

theorem contains_assigned (hparams : List.Forall₂ (fun c p => f c = .ok p) columns params)
    (hnodup : (columns.map Column.name).Nodup) (row : Record) (name : String) :
    (assigned row columns params).contains name = true ↔
      name ∈ columns.map Column.name ∨ row.contains name = true := by
  by_cases hname : name ∈ columns.map Column.name
  · obtain ⟨c, hc, rfl⟩ := List.mem_map.1 hname
    obtain ⟨p, -, hget⟩ := get?_assigned_of_mem hparams hnodup hc row
    rw [Dict.contains_eq_isSome, hget]
    exact iff_of_true rfl (Or.inl hname)
  · rw [Dict.contains_eq_isSome, get?_assigned_of_notMem hparams hname, or_iff_right hname,
      Dict.contains_eq_isSome]

/-- **Columns that get the values that they have keep them**, if these were written through them. -/
theorem get?_assigned_of_stored {row : Record}
    (hparams : List.Forall₂ (fun c p => f c = .ok p) columns params)
    (hnodup : (columns.map Column.name).Nodup) {name : String}
    (hname : ∀ c ∈ columns, c.name = name →
      ∃ v, row.get? name = some v ∧ c.Stored v ∧ f c = c.written v) :
    (assigned row columns params).get? name = row.get? name := by
  by_cases hmem : name ∈ columns.map Column.name
  · obtain ⟨c, hc, rfl⟩ := List.mem_map.1 hmem
    obtain ⟨v, hv, hstored, hf⟩ := hname c hc rfl
    obtain ⟨p, hp, rfl⟩ := Column.stored_iff.1 hstored
    obtain ⟨p', hp', hget⟩ := get?_assigned_of_mem hparams hnodup hc row
    rw [hf, hp] at hp'
    obtain rfl := Except.ok.inj hp'
    rw [hget, hv]
  · exact get?_assigned_of_notMem hparams hmem row

end Assigned

/-! ### Rows of written values -/

namespace Schema

variable {s : Schema}

/-- A row of written values is read back as a record without any other columns. -/
theorem readRow?_eq_assigned {f : Column → Except Refusal Param} {columns : List Column}
    {values : List (String × Param)}
    (h : List.Forall₂ (fun c v => v.1 = c.name ∧ f c = .ok v.2) columns values) :
    readRow? (values.map fun v => (v.1, v.2.cell)) =
      some (assigned .empty columns (values.map Prod.snd)) := by
  have hentries : (columns.zip (values.map Prod.snd)).map (fun x => (x.1.name, x.2.stored)) =
      values.map fun v => (v.1, v.2.stored) := by
    induction h with
    | nil => rfl
    | @cons c v columns values hv _ ih =>
        rw [List.map_cons, List.zip_cons_cons, List.map_cons, ih, List.map_cons, hv.1]
  have hcells : ∀ values : List (String × Param), (values.map fun v => (v.1, v.2.cell)).mapM
      (fun (e : String × Cell) => e.2.toJson?.map fun v => (e.1, v)) =
        some (values.map fun v => (v.1, v.2.stored)) := by
    intro values
    induction values with
    | nil => rfl
    | cons v values ih =>
        rw [List.map_cons, List.mapM_cons, ih, Param.toJson?_cell]
        rfl
  rw [readRow?, hcells, assigned, hentries]
  rfl

/-- **What a record writes is written again by the row that it makes.** -/
theorem writeValues_readRow? (hs : s ∈ catalogue) {r : Record} {values : List (String × Param)}
    (h : s.writeValues r = .ok values) :
    ∃ back, readRow? (values.map fun v => (v.1, v.2.cell)) = some back ∧
      s.writeValues back = .ok values := by
  obtain ⟨-, hvalues⟩ := writeValues_eq_ok_iff_writable.1 h
  have hnodup := nodup_map_name_writable hs r
  have hparams : List.Forall₂ (fun c p => c.written (r.valueOf c.name) = .ok p) (s.writable r)
      (values.map Prod.snd) := by
    rw [List.forall₂_map_right_iff]
    exact hvalues.imp fun c v hv => hv.2
  refine ⟨_, readRow?_eq_assigned hvalues, ?_⟩
  generalize hback : assigned .empty (s.writable r) (values.map Prod.snd) = back
  -- the row has the columns that were written, and no others
  have hcontains : ∀ name, back.contains name = true ↔
      name ∈ (s.writable r).map Column.name := by
    intro name
    rw [← hback, contains_assigned hparams hnodup]
    exact or_iff_left Bool.false_ne_true
  have hcolumns : s.writable back = s.writable r := by
    refine List.filter_congr fun c hc => ?_
    rw [Bool.eq_iff_iff, Bool.and_eq_true, Bool.and_eq_true]
    refine and_congr_right fun hkey => ?_
    rw [hcontains]
    constructor
    · intro hmem
      obtain ⟨d, hd, hname⟩ := List.mem_map.1 hmem
      rw [← hname]
      exact (Bool.and_eq_true _ _ ▸ (List.mem_filter.1 hd).2).2
    · intro hr
      exact List.mem_map_of_mem (List.mem_filter.2 ⟨hc, Bool.and_eq_true _ _ ▸ ⟨hkey, hr⟩⟩)
  refine writeValues_eq_ok_iff_writable.2 ⟨?_, ?_⟩
  · refine checkAttributes_eq_ok_iff.2 fun name hname => ?_
    obtain ⟨c, hc, rfl⟩ := List.mem_map.1 ((hcontains name).1 (Dict.contains_iff_mem_keys.2 hname))
    exact isSome_column?_iff.2 ⟨c, (List.mem_filter.1 hc).1, rfl⟩
  · rw [hcolumns]
    have hheld := forall₂_assigned hparams hnodup .empty
    rw [hback, List.forall₂_map_right_iff] at hheld
    refine List.Forall₂.mp ?_ hvalues hheld
    rintro c v ⟨hname, hwritten⟩ ⟨-, hget⟩
    refine ⟨hname, ?_⟩
    rw [Record.valueOf, hget]
    exact Column.written_stored hwritten

/-! ### Rows that were written back -/

section WrittenBack

variable {row changes : Record} {params : List Param}

/-- A column that has been written is given the same parameter once more. -/
theorem written_mergedValue {row' : Record} {c : Column} {p : Param}
    (hp : c.written (mergedValue row changes c) = .ok p)
    (hget : row'.get? c.name = some p.stored) :
    c.written (mergedValue row' changes c) = .ok p := by
  -- a change is made again; what was only read is read as it was written
  cases hchange : changes.get? c.name with
  | some v =>
      rw [mergedValue, hchange] at hp ⊢
      exact hp
  | none =>
      rw [mergedValue, hchange, Option.getD_none, Record.valueOf, hget]
      exact Column.written_stored hp

/-- A row that was written back has the columns that were written. -/
theorem merged_assigned (hs : s ∈ catalogue)
    (hparams : List.Forall₂ (fun c p => c.written (mergedValue row changes c) = .ok p)
      (s.merged row changes) params) :
    s.merged (assigned row (s.merged row changes) params) changes = s.merged row changes := by
  have hcontains := contains_assigned hparams (nodup_map_name_merged hs) row
  refine List.filter_congr fun c _ => ?_
  rw [Bool.eq_iff_iff]
  simp only [Bool.and_eq_true, Bool.or_eq_true, decide_eq_true_eq, hcontains]
  refine and_congr_right fun hkey => ?_
  constructor
  · rintro (hchange | hmem | hrow)
    · exact Or.inl hchange
    · obtain ⟨d, hd, hname⟩ := List.mem_map.1 hmem
      have hin := (List.mem_filter.1 hd).2
      simp only [Bool.and_eq_true, Bool.or_eq_true, hname] at hin
      exact hin.2
    · exact Or.inr hrow
  · exact Or.imp_right Or.inr

/-- **A row that was written back is written back alike.** -/
theorem writeBack_assigned (hs : s ∈ catalogue)
    (hchanges : ∀ name, changes.contains name = true → (s.column? name).isSome = true)
    (hne : s.merged row changes ≠ [])
    (hparams : List.Forall₂ (fun c p => c.written (mergedValue row changes c) = .ok p)
      (s.merged row changes) params) (key : Param) :
    s.writeBack key (assigned row (s.merged row changes) params) changes =
      .ok (assigning s (s.merged row changes) params key) := by
  refine (writeBack_eq_ok_iff_merged hchanges key).2 ?_
  rw [merged_assigned hs hparams]
  refine ⟨hne, params, ?_, rfl⟩
  exact (forall₂_assigned hparams (nodup_map_name_merged hs) row).imp fun c p hp =>
    written_mergedValue hp.1 hp.2

end WrittenBack

end Schema

end Circulation
