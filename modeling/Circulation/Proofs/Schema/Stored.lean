/-
**What is stored reads and writes back as it is.**

A value that has been written is read back as JSON, and an update writes it once more.  The second
writing gives the parameter of the first one: letters that have their case keep it, numbers and
truth values are what they are, and a date comes back as an ISO literal.

Main definitions:

* `Param.cell`, `Param.stored` — what a parameter leaves in a row, and how it is read back;
* `assigned` — a row after columns have been given values.

Main results:

* `Column.written_stored` — **what was written is written again as it is**;
* `get?_assigned` — what an assigned row holds.
-/

import Circulation.Database.Cell
import Circulation.Proofs.Calendar.Literal
import Circulation.Proofs.Schema.Typing
import Circulation.Proofs.Text.Case

set_option relaxedAutoImplicit false
set_option autoImplicit false

namespace Circulation

/-! ### What is read back -/

namespace Param

/-- What a parameter leaves in a row. -/
def cell : Param → Cell
  | null _ => .null
  | text s => .text s
  | int i => .int i
  | bool b => .bool b
  | date d => .date d

/-- How a parameter is read back. -/
def stored : Param → Json
  | null _ => .null
  | text s => .str s
  | int i => .ofInt i.toInt
  | bool b => .bool b
  | date d => .str d.iso

/-- What a parameter leaves in a row is read back as it says. -/
theorem toJson?_cell (p : Param) : p.cell.toJson? = some p.stored := by
  cases p <;> rfl

end Param

/-! ### Writing once more -/

/-- Letters that are stored the way of a column stay so. -/
theorem LetterCase.apply_apply (l : LetterCase) (s : String) : l.apply (l.apply s) = l.apply s := by
  cases l with
  | lower => exact Text.lower_lower s
  | upper => exact Text.upper_upper s
  | kept => rfl

theorem Number.toInt64?_toInt (i : Int64) : (Number.int i.toInt).toInt64? = some i := by
  have hle := i.le_toInt
  have hlt := i.toInt_lt
  have hfits : Text.fitsInt64 i.toInt = true := by
    simp only [Text.fitsInt64, Bool.and_eq_true, decide_eq_true_eq]
    omega
  rw [toInt64?, if_pos hfits, Int64.ofInt_toInt]

namespace Column

variable {c : Column} {v : Json} {p : Param}

/-- A null value is written as a missing one. -/
theorem written_of_null (hv : v.isNull = true) : c.written v = .ok (.null c.type) := by
  rw [written, param, if_pos hv]
  rfl

/-- The year of a date that a value makes has four digits. -/
theorem year_of_dateParam {d : Date} (h : c.dateParam v = .ok (.date d)) :
    0 ≤ d.year ∧ d.year ≤ 9999 := by
  unfold dateParam at h
  split at h
  · split at h
    · next d' hread =>
        obtain rfl := Param.date.inj (Except.ok.inj h)
        exact year_of_readDate hread
    · cases h
  · cases h

/-- A date that was written is written again as it is. -/
theorem dateParam_iso {d : Date} (h : c.dateParam v = .ok (.date d)) :
    c.dateParam (.str d.iso) = .ok (.date d) := by
  obtain ⟨hlow, hhigh⟩ := year_of_dateParam h
  simp only [dateParam, readDate_iso hlow hhigh]

/-- **What was written is written again as it is.** -/
theorem written_stored (h : c.written v = .ok p) : c.written p.stored = .ok p := by
  by_cases hnull : v.isNull = true
  · rw [written_of_null hnull] at h
    obtain rfl := Except.ok.inj h
    exact written_of_null rfl
  obtain ⟨q, hq, rfl⟩ := except_map_eq_ok_iff.1 h
  rw [param, if_neg hnull] at hq
  -- each type reads back what it has written; only texts have letters to change
  cases htype : c.type with
  | text =>
      simp only [htype] at hq
      obtain ⟨s, rfl⟩ := exists_of_textParam hq
      refine except_map_eq_ok_iff.2 ⟨.text (c.letters.apply s), ?_, ?_⟩
      · rw [param, htype]
        rfl
      · simp only [LetterCase.applyParam, LetterCase.apply_apply]
  | integer =>
      simp only [htype] at hq
      obtain ⟨i, rfl⟩ := exists_of_intParam hq
      refine except_map_eq_ok_iff.2 ⟨.int i, ?_, rfl⟩
      simp only [LetterCase.applyParam, Param.stored, Json.ofInt, param, htype, intParam,
        Number.toInt64?_toInt]
      rfl
  | boolean =>
      simp only [htype] at hq
      obtain ⟨b, rfl⟩ := exists_of_boolParam hq
      refine except_map_eq_ok_iff.2 ⟨.bool b, ?_, rfl⟩
      rw [param, htype]
      rfl
  | date =>
      simp only [htype] at hq
      obtain ⟨d, rfl⟩ := exists_of_dateParam hq
      refine except_map_eq_ok_iff.2 ⟨.date d, ?_, rfl⟩
      simp only [LetterCase.applyParam, Param.stored, param, Json.isNull, htype, dateParam_iso hq]
      rfl

end Column

/-! ### Assigned rows -/

/-- A row after columns have been given values. -/
def assigned (row : Record) (columns : List Column) (params : List Param) : Record :=
  row.insertAll ((columns.zip params).map fun x => (x.1.name, x.2.stored))

@[simp] theorem assigned_cons (row : Record) (c : Column) (columns : List Column) (p : Param)
    (params : List Param) :
    assigned row (c :: columns) (p :: params) =
      assigned (row.insert c.name p.stored) columns params := rfl

section Assigned

variable {f : Column → Except Refusal Param} {columns : List Column} {params : List Param}

/-- A column that is given no value keeps the one it has. -/
theorem get?_assigned_of_notMem (hparams : List.Forall₂ (fun c p => f c = .ok p) columns params)
    {name : String} (h : name ∉ columns.map Column.name) (row : Record) :
    (assigned row columns params).get? name = row.get? name := by
  induction hparams generalizing row with
  | nil => rfl
  | @cons c p columns params hp hparams ih =>
      rw [List.map_cons, List.mem_cons, not_or] at h
      rw [assigned_cons, ih h.2, Dict.get?_insert, if_neg (Ne.symm h.1)]

/-- A column that is given a value holds it. -/
theorem get?_assigned_of_mem (hparams : List.Forall₂ (fun c p => f c = .ok p) columns params)
    (hnodup : (columns.map Column.name).Nodup) {c : Column} (hc : c ∈ columns) (row : Record) :
    ∃ p, f c = .ok p ∧ (assigned row columns params).get? c.name = some p.stored := by
  induction hparams generalizing row with
  | nil => cases hc
  | @cons d p columns params hp hparams ih =>
      rw [List.map_cons, List.nodup_cons] at hnodup
      rcases List.mem_cons.1 hc with rfl | hc
      · -- no later column has the same name
        refine ⟨p, hp, ?_⟩
        rw [assigned_cons, get?_assigned_of_notMem hparams hnodup.1, Dict.get?_insert, if_pos rfl]
      · exact ih hnodup.2 hc (row.insert d.name p.stored)

end Assigned

end Circulation
