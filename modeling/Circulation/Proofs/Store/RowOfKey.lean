/-
**The row of a key, and what statements do to it.**

A store is arbitrary here but for one row: looking the row up gives it and leaves it, a change of
columns puts their values in it, and asking for a connection or a commit leaves it alone.  A store
that holds nothing but this row and reads a change off its text is of this kind.

Main definitions:

* `KeepsRow` — what statements do to the row of a key;
* `Exchange.Quiet` — what an update asks beside its write;
* `soleRow` — a store of one row.

Main results:

* `row_of_quiet` — **nothing but a write changes the row**;
* `columnsIn_assigning` — the text of a change names the columns that it changes, and no others;
* `keepsRow_soleRow` — the store of one row keeps it.
-/

import Circulation.Proofs.Schema.Merge
import Circulation.Proofs.Schema.Stored
import Circulation.Proofs.Store.Race
import Mathlib.Data.List.Nodup

set_option relaxedAutoImplicit false
set_option autoImplicit false

namespace Circulation

/-! ### The row of a key -/

/-- The columns that a change may give values to: all but the primary key. -/
def Schema.settable (s : Schema) : List Column :=
  s.columns.filter fun c => decide (c.name ≠ s.primaryKey)

/-- What statements do to the row of a key: a look-up gives the row and leaves it, and a change of
some columns gives them their values and leaves the others. -/
structure KeepsRow {σ : Type} (b : Backend σ) (s : Schema) (key : Param) (row : σ → Record) :
    Prop where
  acquire : ∀ {store store' : σ}, b.acquire store = (.ok (), store') → row store' = row store
  commit : ∀ {store store' : σ}, b.commit store = (.ok (), store') → row store' = row store
  select : ∀ {store store' : σ} {found : Outcome},
    b.execute (selectById s key) store = (.ok found, store') →
      found.rows = [row store] ∧ row store' = row store
  update : ∀ {store store' : σ} {columns : List Column} {params : List Param} {out : Outcome},
    columns.Sublist s.settable → columns ≠ [] → columns.length = params.length →
      b.execute (assigning s columns params key) store = (.ok out, store') → out.affected = 1 →
        row store' = assigned (row store) columns params

namespace Exchange

/-- An exchange that may change a row. -/
def isWrite : Exchange → Bool
  | execute s _ => s.kind == .command
  | _ => false

/-- An exchange that reads rows. -/
def isRead : Exchange → Bool
  | execute s _ => s.kind == .query
  | _ => false

/-- What an update asks beside its write, when nothing goes wrong. -/
inductive Quiet (s : Schema) (key : Param) : Exchange → Prop
  | acquire : Quiet s key (.acquire (.ok ()))
  | commit : Quiet s key (.commit (.ok ()))
  | select (found : Outcome) : Quiet s key (.execute (selectById s key) (.ok found))

end Exchange

section Quiet

variable {σ : Type} {b : Backend σ} {s : Schema} {key : Param} {row : σ → Record}

/-- A quiet exchange leaves the row alone, and gives it if it looks it up. -/
theorem Exchange.Quiet.row_of_happens (hb : KeepsRow b s key row) {x : Exchange}
    (h : x.Quiet s key) {store store' : σ} (hx : x.Happens b store store') :
    row store' = row store ∧
      ∀ found, .execute (selectById s key) (.ok found) = x → found.rows = [row store] := by
  cases h with
  | acquire => exact ⟨hb.acquire hx, fun found heq => by cases heq⟩
  | commit => exact ⟨hb.commit hx, fun found heq => by cases heq⟩
  | select found' =>
      obtain ⟨hfound', hrow⟩ := hb.select hx
      refine ⟨hrow, fun found heq => ?_⟩
      cases heq
      exact hfound'

/-- **Nothing but a write changes the row**, and whoever reads it in between gets it as it is. -/
theorem row_of_quiet (hb : KeepsRow b s key row) {xs : List Exchange} {store store' : σ}
    (h : Happen b xs store store') (hquiet : ∀ x ∈ xs, x.Quiet s key) :
    row store' = row store ∧
      ∀ found, .execute (selectById s key) (.ok found) ∈ xs → found.rows = [row store] := by
  induction xs generalizing store with
  | nil =>
      obtain rfl : store' = store := h
      exact ⟨rfl, fun found hfound => absurd hfound List.not_mem_nil⟩
  | cons x xs ih =>
      obtain ⟨store₁, hx, hxs⟩ := h
      obtain ⟨hrow₁, hread⟩ := (hquiet x List.mem_cons_self).row_of_happens hb hx
      obtain ⟨hrow, hreads⟩ := ih hxs fun y hy => hquiet y (List.mem_cons_of_mem x hy)
      rw [hrow₁] at hrow hreads
      refine ⟨hrow, fun found hfound => ?_⟩
      rcases List.mem_cons.1 hfound with heq | hfound
      · exact hread found heq
      · exact hreads found hfound

end Quiet

/-! ### The words of a text -/

namespace Text

/-- A word: something without a blank. -/
def IsWord (w : List Char) : Prop := w ≠ [] ∧ ∀ c ∈ w, isBlank c = false

instance (w : List Char) : Decidable (IsWord w) :=
  decidable_of_iff (w ≠ [] ∧ w.any isBlank = false) (by simp [IsWord])

/-- A word ends at the first blank. -/
theorem words_append_blank {w : List Char} (hw : IsWord w) (cs : List Char) :
    words (w ++ ' ' :: cs) = w :: words cs := by
  rw [words, List.splitOnP_append_cons_of_forall_mem hw.2 ' ' rfl, List.filter_cons, if_pos]
  · rfl
  · simpa using hw.1

theorem words_of_isWord {w : List Char} (hw : IsWord w) : words w = [w] := by
  rw [words, List.splitOnP_eq_singleton hw.2, List.filter_cons, if_pos, List.filter_nil]
  simpa using hw.1

end Text

open Text

/-- What begins with a placeholder is a word, if there is no blank behind it. -/
theorem isWord_placeholder_append (i : Nat) {w : List Char} (hw : ∀ c ∈ w, isBlank c = false) :
    IsWord ((placeholder i).toList ++ w) := by
  obtain ⟨digits, hdigits, hall, -⟩ := toList_placeholder i
  rw [hdigits]
  refine ⟨List.cons_ne_nil _ _, ?_⟩
  intro c hc
  rw [List.cons_append, List.mem_cons, List.mem_append] at hc
  rcases hc with rfl | hc | hc
  · rfl
  · exact isBlank_of_isDigit (hall c hc)
  · exact hw c hc

theorem isWord_placeholder (i : Nat) : IsWord (placeholder i).toList := by
  have hword := isWord_placeholder_append i fun c hc => absurd hc List.not_mem_nil
  rwa [List.append_nil] at hword

/-- What begins with a placeholder is no text without a dollar sign. -/
theorem ne_placeholder_append {n : List Char} (hn : Plain n) (i : Nat) (w : List Char) :
    n ≠ (placeholder i).toList ++ w := by
  obtain ⟨digits, hdigits, -⟩ := toList_placeholder i
  rintro rfl
  rw [hdigits] at hn
  exact hn List.mem_cons_self

theorem ne_placeholder {n : List Char} (hn : Plain n) (i : Nat) : n ≠ (placeholder i).toList := by
  have hne := ne_placeholder_append hn i []
  rwa [List.append_nil] at hne

/-- The words of assignments, as far as they are names: the names of the columns. -/
theorem mem_words_assignments {n : List Char} (hplain : Plain n) (hn : n ≠ ['=']) (i : Nat)
    {columns : List Column} (hcolumns : ∀ c ∈ columns, IsWord c.name.toList) (hne : columns ≠ [])
    (tail : List Char) :
    n ∈ words ((joinWith ", " (slotTexts assignmentFront i columns)).toList ++ ' ' :: tail) ↔
      (∃ c ∈ columns, n = c.name.toList) ∨ n ∈ words tail := by
  have hequals : IsWord ['='] := by decide
  induction columns generalizing i with
  | nil => exact absurd rfl hne
  | cons c columns ih =>
      have hc : IsWord c.name.toList := hcolumns c List.mem_cons_self
      cases columns with
      | nil =>
          have hno := ne_placeholder hplain i
          have hchars : (joinWith ", " (slotTexts assignmentFront i [c])).toList ++ ' ' :: tail =
              c.name.toList ++ ' ' :: (['='] ++ ' ' ::
                ((placeholder i).toList ++ ' ' :: tail)) := by
            simp [slotTexts, assignmentFront]
          rw [hchars, words_append_blank hc, words_append_blank hequals,
            words_append_blank (isWord_placeholder i)]
          simp [hn, hno]
      | cons d columns =>
          have hplaceholder : IsWord ((placeholder i).toList ++ [',']) :=
            isWord_placeholder_append i (List.forall_mem_singleton.2 rfl)
          have hno := ne_placeholder_append hplain i [',']
          have hchars : (joinWith ", " (slotTexts assignmentFront i (c :: d :: columns))).toList ++
                ' ' :: tail =
              c.name.toList ++ ' ' :: (['='] ++ ' ' :: (((placeholder i).toList ++ [',']) ++ ' ' ::
                ((joinWith ", " (slotTexts assignmentFront (i + 1) (d :: columns))).toList ++
                  ' ' :: tail))) := by
            simp [slotTexts_cons, joinWith, assignmentFront]
          have hrest := ih (i + 1) (fun e he => hcolumns e (List.mem_cons_of_mem c he))
            (List.cons_ne_nil d columns)
          rw [hchars, words_append_blank hc, words_append_blank hequals,
            words_append_blank hplaceholder]
          simp [hn, hno, hrest, or_assoc]

/-! ### A store of one row -/

/-- A part of a list without duplicates is what a filter leaves that lets just its entries pass. -/
theorem filter_eq_of_sublist {α : Type} {p : α → Bool} {l m : List α} (h : l.Sublist m)
    (hm : m.Nodup) (hp : ∀ a ∈ m, p a = true ↔ a ∈ l) : m.filter p = l := by
  induction h with
  | slnil => rfl
  | @cons l m a h ih =>
      rw [List.nodup_cons] at hm
      have hno : ¬p a = true := fun ha =>
        hm.1 (h.subset ((hp a List.mem_cons_self).1 ha))
      rw [List.filter_cons_of_neg hno]
      exact ih hm.2 fun b hb => hp b (List.mem_cons_of_mem a hb)
  | @cons_cons l m a h ih =>
      rw [List.nodup_cons] at hm
      rw [List.filter_cons_of_pos ((hp a List.mem_cons_self).2 List.mem_cons_self)]
      congr 1
      refine ih hm.2 fun b hb => ?_
      have hne : b ≠ a := by
        rintro rfl
        exact hm.1 hb
      rw [hp b (List.mem_cons_of_mem a hb), List.mem_cons, or_iff_right hne]

/-- The columns that a text names: their names are words of it. -/
def Schema.columnsIn (s : Schema) (sql : String) : List Column :=
  s.settable.filter fun c => decide (c.name.toList ∈ words sql.toList)

/-- A store that holds the row of one key: a query gives it, and a command gives the columns that it
names their values, both of them if they are about this key. -/
def soleRow (s : Schema) (key : Param) : Backend Record where
  acquire row := (.ok (), row)
  execute st row :=
    if st.params.getLast? = some key then
      match st.kind with
      | .query => (.ok (.ofRows [row]), row)
      | .command => (.ok (.ofCount 1), assigned row (s.columnsIn st.sql) st.params.dropLast)
    else (.ok (.ofRows []), row)
  commit row := (.ok (), row)
  rollback row := (.ok (), row)

section SoleRow

variable {s : Schema}

/-- The names of a resource are words, and those of its columns are none of the others that stand in
a change. -/
theorem isWord_of_mem_catalogue (hs : s ∈ catalogue) :
    IsWord s.table.toList ∧ IsWord s.primaryKey.toList ∧ ∀ c ∈ s.columns, IsWord c.name.toList ∧
      c.name.toList ∉ ["UPDATE".toList, s.table.toList, "SET".toList, ['='], "WHERE".toList] := by
  have hall : ∀ s ∈ catalogue, IsWord s.table.toList ∧ IsWord s.primaryKey.toList ∧
      ∀ c ∈ s.columns, IsWord c.name.toList ∧
        c.name.toList ∉
          ["UPDATE".toList, s.table.toList, "SET".toList, ['='], "WHERE".toList] := by
    decide +kernel
  exact hall s hs

/-- **The text of a change names the columns that it changes, and no others.** -/
theorem columnsIn_assigning (hs : s ∈ catalogue) {columns : List Column}
    (h : columns.Sublist s.settable) (hne : columns ≠ []) (params : List Param) (key : Param) :
    s.columnsIn (assigning s columns params key).sql = columns := by
  obtain ⟨htable, hkey, hnames⟩ := isWord_of_mem_catalogue hs
  have hplain := plainNames_of_mem_catalogue hs
  have hcolumns : ∀ c ∈ columns, c ∈ s.columns := fun c hc =>
    (List.mem_filter.1 (h.subset hc)).1
  have hnodup := Schema.nodup_map_name hs
  have hdistinct : s.settable.Nodup := (List.Nodup.of_map Column.name hnodup).filter _
  refine filter_eq_of_sublist h hdistinct fun c hc => ?_
  obtain ⟨hc, hckey⟩ := List.mem_filter.1 hc
  rw [decide_eq_true_eq] at hckey ⊢
  obtain ⟨-, hno⟩ := hnames c hc
  simp only [List.mem_cons, List.not_mem_nil, or_false, not_or] at hno
  obtain ⟨hupdate, hnotable, hset, hequals, hwhere⟩ := hno
  have hnokey : c.name.toList ≠ s.primaryKey.toList := fun h => hckey (String.toList_inj.1 h)
  have hchars : (assigning s columns params key).sql.toList =
      "UPDATE".toList ++ ' ' :: (s.table.toList ++ ' ' :: ("SET".toList ++ ' ' ::
        ((joinWith ", " (slotTexts assignmentFront 1 columns)).toList ++ ' ' ::
          ("WHERE".toList ++ ' ' :: (s.primaryKey.toList ++ ' ' :: (['='] ++ ' ' ::
            (placeholder (columns.length + 1)).toList)))))) := by
    simp [assigning]
  have hlast := isWord_placeholder (columns.length + 1)
  have hnolast := ne_placeholder (hplain.columns c hc) (columns.length + 1)
  have hassignments := mem_words_assignments (hplain.columns c hc) hequals 1
    (fun d hd => (hnames d (hcolumns d hd)).1) hne
  rw [hchars, words_append_blank (by decide), words_append_blank htable,
    words_append_blank (by decide)]
  simp only [List.mem_cons, hassignments, words_append_blank hkey, words_of_isWord hlast,
    words_append_blank (show IsWord "WHERE".toList by decide),
    words_append_blank (show IsWord ['='] by decide), hupdate, hnotable, hset, hwhere, hnokey,
    hequals, hnolast, List.not_mem_nil, or_false, false_or]
  -- the names of columns are different
  constructor
  · rintro ⟨d, hd, hname⟩
    rwa [List.inj_on_of_nodup_map hnodup hc (hcolumns d hd) (String.toList_inj.1 hname)]
  · intro hmem
    exact ⟨c, hmem, rfl⟩

/-- **The store of one row keeps it.** -/
theorem keepsRow_soleRow (hs : s ∈ catalogue) (key : Param) :
    KeepsRow (soleRow s key) s key id where
  acquire h := by
    cases h
    rfl
  commit h := by
    cases h
    rfl
  select {store store' found} h := by
    have hexecute : (soleRow s key).execute (selectById s key) store =
        (.ok (.ofRows [store]), store) := if_pos rfl
    rw [hexecute] at h
    cases h
    exact ⟨rfl, rfl⟩
  update {store store' columns params out} hcolumns hne hlength h hout := by
    have hexecute : (soleRow s key).execute (assigning s columns params key) store =
        (.ok (.ofCount 1), assigned store columns params) := by
      have haimed : (assigning s columns params key).params.getLast? = some key :=
        List.getLast?_concat
      have hrest : (assigning s columns params key).params.dropLast = params :=
        List.dropLast_concat
      simp only [soleRow, haimed, hrest, columnsIn_assigning hs hcolumns hne, if_true]
      rfl
    rw [hexecute] at h
    cases h
    rfl

end SoleRow

end Circulation
