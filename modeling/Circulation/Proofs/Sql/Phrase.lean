/-
**Phrases: the shapes that statements have, with what every placeholder is for.**

A statement says in its text what the value of a placeholder is for, and carries the values in a
list beside the text.  A phrase holds both together: its columns give the text, and they give in the
same order what the values have to be.

Main definitions:

* `Use`, `Use.Admits` — what a value is for, and which values do;
* `Phrase`, `Phrase.sql`, `Phrase.uses` — the shapes, their text, and the uses of their values;
* `Schema.Wording` — a resource whose statements are made of words of one sort;
* `Statement.Follows` — a statement that has the text of a phrase and values that do.

Main results:

* `Phrase.layout_sql` — **a phrase is laid out with one placeholder for each of its uses**;
* `Phrase.numbered_sql` — the placeholders of a phrase are numbered by its uses;
* `Follows.placeholders` — **a statement that follows a phrase has one placeholder for each of its
  parameters, in their order**.
-/

import Circulation.Proofs.Schema.Typing
import Circulation.Proofs.Sql.Placeholder

set_option relaxedAutoImplicit false
set_option autoImplicit false

namespace Circulation

/-! ### Uses of values -/

/-- What the value of a placeholder is for. -/
inductive Use where
  /-- A column is compared with it. -/
  | comparison (c : Column) (op : Filter.Comparison)
  /-- A column gets it. -/
  | assignment (c : Column)
  /-- So many rows are left out in front of a page. -/
  | offset (page : Page)
  /-- So many rows are on a page. -/
  | size (page : Page)

/-- Whether a value does for a use. -/
inductive Use.Admits : Use → Param → Prop
  | comparison {c : Column} {op : Filter.Comparison} {p : Param} (htype : p.type = c.type)
      (hnull : p.isNull = false) (htext : op.textOnly = true → c.type = .text) :
      Admits (.comparison c op) p
  | assignment {c : Column} {p : Param} (htype : p.type = c.type) : Admits (.assignment c) p
  | offset {page : Page} {i : Int64}
      (hvalue : i.toInt = (page.number.toNat - 1 : Int) * page.size.toNat) (hpos : 0 ≤ i.toInt) :
      Admits (.offset page) (.int i)
  | size {page : Page} {i : Int64} (hvalue : i.toInt = page.size.toNat) (hpos : 1 ≤ i.toInt)
      (hle : i.toInt ≤ 500) : Admits (.size page) (.int i)

/-! ### Phrases -/

/-- A column and how it is compared. -/
abbrev Compared := Column × Filter.Comparison

/-- The shapes of statements, with the columns whose values they are given. -/
inductive Phrase where
  | count (compared : List Compared)
  | page (compared : List Compared) (page : Page)
  | lookup (key : Column)
  | change (assigned : List Column) (key : Column)
  | insertion (assigned : List Column)

/-- What stands in front of the value that a column is compared with. -/
def Compared.front (x : Compared) : String := x.1.name ++ " " ++ x.2.sql ++ " "

/-- What stands in front of the value that a column gets. -/
def assignmentFront (c : Column) : String := c.name ++ " = "

/-- The text of comparisons, empty if there are none. -/
def comparedSql (l : List Compared) : String :=
  match l with
  | [] => ""
  | x :: l => " WHERE " ++ Text.joinWith " AND " (slotTexts Compared.front 1 (x :: l))

/-! ### The texts of the shapes -/

section Texts

variable (s : Schema)

/-- The text that counts rows. -/
def countSql (l : List Compared) : String :=
  "SELECT COUNT(*) AS total FROM " ++ s.table ++ comparedSql l

/-- The text that reads a page of rows. -/
def pageSql (l : List Compared) : String :=
  "SELECT * FROM " ++ s.table ++ comparedSql l ++ " ORDER BY " ++ s.primaryKey ++ " OFFSET " ++
    placeholder (l.length + 1) ++ " ROWS FETCH NEXT " ++ placeholder (l.length + 2) ++ " ROWS ONLY"

/-- The text that looks up a row. -/
def lookupSql (key : Column) : String :=
  "SELECT * FROM " ++ s.table ++ " WHERE " ++ key.name ++ " = " ++ placeholder 1

/-- The text that changes a row. -/
def changeSql (l : List Column) (key : Column) : String :=
  "UPDATE " ++ s.table ++ " SET " ++ Text.joinWith ", " (slotTexts assignmentFront 1 l) ++
    " WHERE " ++ key.name ++ " = " ++ placeholder (l.length + 1)

/-- The text that inserts a row. -/
def insertionSql (l : List Column) : String :=
  "INSERT INTO " ++ s.table ++ " (" ++ Text.joinWith ", " (l.map Column.name) ++ ") VALUES (" ++
    Text.joinWith ", " ((List.range' 1 l.length).map placeholder) ++ ") RETURNING *"

end Texts

namespace Phrase

/-- Whether a shape asks for rows or changes them. -/
def kind : Phrase → StatementKind
  | change _ _ => .command
  | _ => .query

/-- The text of a phrase about a resource. -/
def sql (s : Schema) : Phrase → String
  | count l => countSql s l
  | page l _ => pageSql s l
  | lookup key => lookupSql s key
  | change l key => changeSql s l key
  | insertion l => insertionSql s l

/-- What the values of a phrase are for, in the order of its placeholders. -/
def uses : Phrase → List Use
  | count l => l.map fun x => .comparison x.1 x.2
  | page l p => l.map (fun x => .comparison x.1 x.2) ++ [.offset p, .size p]
  | lookup key => [.comparison key (.builtin .eq)]
  | change l key => l.map .assignment ++ [.comparison key (.builtin .eq)]
  | insertion l => l.map .assignment

/-- The columns that a phrase names. -/
def columns : Phrase → List Column
  | count l => l.map Prod.fst
  | page l _ => l.map Prod.fst
  | lookup key => [key]
  | change l key => l ++ [key]
  | insertion l => l

/-- The page that a phrase reads. -/
def page? : Phrase → Option Page
  | page _ p => some p
  | _ => none

end Phrase

/-! ### Words of statements -/

/-- The words that stand between the names of a statement. -/
def fixedWords : List String :=
  ["SELECT COUNT(*) AS total FROM ", "SELECT * FROM ", "UPDATE ", "INSERT INTO ", " SET ",
    " WHERE ", " AND ", " ", " = ", ", ", " (", ") VALUES (", ") RETURNING *", " ORDER BY ",
    " OFFSET ", " ROWS FETCH NEXT ", " ROWS ONLY"]

/-- A fixed word may stand behind a placeholder, whatever follows it. -/
theorem parted_append_fixed {w : String} (t : List Char) (hw : w ∈ fixedWords := by decide) :
    Parted (w.toList ++ t) := by
  have hall : ∀ w ∈ fixedWords, w.toList.head?.any
      (fun c => c != '$' && !Text.isDecimalDigit c) = true := by decide
  have hhead := hall w hw
  cases hchars : w.toList with
  | nil =>
      rw [hchars] at hhead
      cases hhead
  | cons c cs =>
      rw [hchars] at hhead
      have hc : c ≠ '$' ∧ Text.isDecimalDigit c = false := by simpa using hhead
      rintro d ⟨⟩
      exact hc

theorem parted_fixed {w : String} (hw : w ∈ fixedWords := by decide) : Parted w.toList := by
  have h := parted_append_fixed [] hw
  rwa [List.append_nil] at h

/-- A resource whose statements are made of words of one sort. -/
structure Schema.Wording (W : List Char → Prop) (s : Schema) : Prop where
  nil : W []
  append : ∀ {v w}, W v → W w → W (v ++ w)
  fixed : ∀ w ∈ fixedWords, W w.toList
  comparison : ∀ op : Filter.Comparison, W op.sql.toList
  table : W s.table.toList
  primaryKey : W s.primaryKey.toList
  columns : ∀ c ∈ s.columns, W c.name.toList

/-- A resource whose names hold no dollar sign. -/
structure Schema.PlainNames (s : Schema) : Prop where
  table : Plain s.table.toList
  primaryKey : Plain s.primaryKey.toList
  columns : ∀ c ∈ s.columns, Plain c.name.toList

theorem plainNames_of_mem_catalogue {s : Schema} (h : s ∈ catalogue) : s.PlainNames := by
  have hall : ∀ s ∈ catalogue, '$' ∉ s.table.toList ∧ '$' ∉ s.primaryKey.toList ∧
      ∀ c ∈ s.columns, '$' ∉ c.name.toList := by decide
  obtain ⟨htable, hkey, hcolumns⟩ := hall s h
  exact ⟨htable, hkey, hcolumns⟩

theorem plain_comparison (op : Filter.Comparison) : Plain op.sql.toList := by
  unfold Plain
  cases op with
  | builtin b => cases b <;> decide
  | passThrough p => cases p <;> decide

theorem Schema.PlainNames.wording {s : Schema} (hs : s.PlainNames) : s.Wording Plain where
  nil := List.not_mem_nil
  append := plain_append
  fixed := by
    unfold Plain
    decide
  comparison := plain_comparison
  table := hs.table
  primaryKey := hs.primaryKey
  columns := hs.columns

/-! ### The placeholders of a phrase -/

section Layout

variable {W : List Char → Prop} {s : Schema}

/-- A fixed word; that it is one is checked where it is used. -/
theorem Schema.Wording.word (hW : s.Wording W) {w : String} (hw : w ∈ fixedWords := by decide) :
    W w.toList := hW.fixed w hw

theorem Schema.Wording.front (hW : s.Wording W) {x : Compared} (hx : W x.1.name.toList) :
    W x.front.toList := by
  have hblank : W " ".toList := hW.word
  rw [Compared.front, String.toList_append, String.toList_append, String.toList_append]
  exact hW.append (hW.append (hW.append hx hblank) (hW.comparison x.2)) hblank

theorem Schema.Wording.assignmentFront (hW : s.Wording W) {c : Column} (hc : W c.name.toList) :
    W (assignmentFront c).toList := by
  rw [Circulation.assignmentFront, String.toList_append]
  exact hW.append hc hW.word

/-- The names of columns in a list. -/
theorem Schema.Wording.joinWith (hW : s.Wording W) {texts : List String}
    (htexts : ∀ t ∈ texts, W t.toList) : W (Text.joinWith ", " texts).toList := by
  induction texts with
  | nil => exact hW.nil
  | cons t texts ih =>
      have ht : W t.toList := htexts t List.mem_cons_self
      have hrest := ih fun u hu => htexts u (List.mem_cons_of_mem t hu)
      cases texts with
      | nil => exact ht
      | cons u texts =>
          rw [Text.joinWith, String.toList_append, String.toList_append]
          exact hW.append (hW.append ht hW.word) hrest

theorem layout_comparedSql (hW : s.Wording W) {l : List Compared}
    (hl : ∀ x ∈ l, W x.1.name.toList) : Layout W 1 l.length (comparedSql l).toList := by
  cases l with
  | nil => exact .nil 1
  | cons x l =>
      unfold comparedSql
      rw [String.toList_append]
      refine .word hW.word ?_
      exact layout_slotTexts (fun y hy => hW.front (hl y hy)) hW.word parted_append_fixed 1

theorem slotTexts_empty {α : Type} (i : Nat) (l : List α) :
    slotTexts (fun _ => "") i l = (List.range' i l.length).map placeholder := by
  induction l generalizing i with
  | nil => rfl
  | cons a l ih =>
      rw [slotTexts_cons, ih (i + 1), List.length_cons, List.range'_succ, List.map_cons,
        String.empty_append]

theorem layout_countSql (hW : s.Wording W) {l : List Compared}
    (hl : ∀ x ∈ l, W x.1.name.toList) : Layout W 1 l.length (countSql s l).toList := by
  unfold countSql
  rw [String.toList_append, String.toList_append, List.append_assoc]
  refine .word hW.word ?_
  exact .word hW.table (layout_comparedSql hW hl)

theorem layout_pageSql (hW : s.Wording W) {l : List Compared}
    (hl : ∀ x ∈ l, W x.1.name.toList) : Layout W 1 (l.length + 2) (pageSql s l).toList := by
  unfold pageSql
  simp only [String.toList_append, List.append_assoc]
  refine .word hW.word ?_
  refine .word hW.table ?_
  refine (layout_comparedSql hW hl).append ?_ (parted_append_fixed _)
  -- behind the comparisons: the order, and the two numbers of the page
  rw [Nat.add_comm 1 l.length]
  refine .word hW.word ?_
  refine .word hW.primaryKey ?_
  refine .word hW.word ?_
  refine .slot ?_ (parted_append_fixed _)
  refine .word hW.word ?_
  exact .slot (.ofWord hW.word _) parted_fixed

theorem layout_lookupSql (hW : s.Wording W) {key : Column} (hkey : W key.name.toList) :
    Layout W 1 1 (lookupSql s key).toList := by
  unfold lookupSql
  simp only [String.toList_append, List.append_assoc]
  refine .word hW.word ?_
  refine .word hW.table ?_
  refine .word hW.word ?_
  refine .word hkey ?_
  exact .word hW.word (.ofSlot 1)

theorem layout_changeSql (hW : s.Wording W) {l : List Column} {key : Column}
    (hl : ∀ c ∈ l, W c.name.toList) (hkey : W key.name.toList) :
    Layout W 1 (l.length + 1) (changeSql s l key).toList := by
  have hassigned : Layout W 1 l.length
      (Text.joinWith ", " (slotTexts assignmentFront 1 l)).toList :=
    layout_slotTexts (fun c hc => hW.assignmentFront (hl c hc)) hW.word parted_append_fixed 1
  unfold changeSql
  simp only [String.toList_append, List.append_assoc]
  refine .word hW.word ?_
  refine .word hW.table ?_
  refine .word hW.word ?_
  refine hassigned.append ?_ (parted_append_fixed _)
  -- the key takes the number behind those of the columns
  rw [Nat.add_comm 1 l.length]
  refine .word hW.word ?_
  refine .word hkey ?_
  exact .word hW.word (.ofSlot _)

theorem layout_insertionSql (hW : s.Wording W) {l : List Column}
    (hl : ∀ c ∈ l, W c.name.toList) : Layout W 1 l.length (insertionSql s l).toList := by
  have hnames : ∀ t ∈ l.map Column.name, W t.toList := List.forall_mem_map.2 hl
  have hassigned : Layout W 1 l.length
      (Text.joinWith ", " ((List.range' 1 l.length).map placeholder)).toList := by
    rw [← slotTexts_empty 1 l]
    exact layout_slotTexts (fun c hc => hW.nil) hW.word parted_append_fixed 1
  unfold insertionSql
  simp only [String.toList_append, List.append_assoc]
  refine .word hW.word ?_
  refine .word hW.table ?_
  refine .word hW.word ?_
  refine .word (hW.joinWith hnames) ?_
  refine .word hW.word ?_
  exact hassigned.append (.ofWord hW.word _) parted_fixed

/-- **A phrase is laid out with one placeholder for each of its uses.** -/
theorem Phrase.layout_sql (hW : s.Wording W) {p : Phrase} (hp : ∀ c ∈ p.columns, c ∈ s.columns) :
    Layout W 1 p.uses.length (p.sql s).toList := by
  have hnames : ∀ c ∈ p.columns, W c.name.toList := fun c hc => hW.columns c (hp c hc)
  cases p with
  | count l =>
      rw [Phrase.uses, List.length_map]
      exact layout_countSql hW fun x hx => hnames x.1 (List.mem_map_of_mem hx)
  | page l q =>
      rw [Phrase.uses, List.length_append, List.length_map]
      exact layout_pageSql hW fun x hx => hnames x.1 (List.mem_map_of_mem hx)
  | lookup key => exact layout_lookupSql hW (hnames key (List.mem_singleton_self key))
  | change l key =>
      rw [Phrase.uses, List.length_append, List.length_map]
      refine layout_changeSql hW (fun c hc => hnames c (List.mem_append_left _ hc)) ?_
      exact hnames key (List.mem_append_right _ (List.mem_singleton_self key))
  | insertion l =>
      rw [Phrase.uses, List.length_map]
      exact layout_insertionSql hW hnames

/-- **The placeholders of a phrase are numbered by its uses.** -/
theorem Phrase.numbered_sql (hs : s.PlainNames) {p : Phrase} (hp : ∀ c ∈ p.columns, c ∈ s.columns) :
    Numbered 1 p.uses.length (p.sql s).toList :=
  (Phrase.layout_sql hs.wording hp).numbered id

end Layout

/-! ### Statements that follow a phrase -/

/-- A statement that has the shape and the text of a phrase, and values that do for its uses. -/
structure Statement.Follows (st : Statement) (s : Schema) (p : Phrase) : Prop where
  kind : st.kind = p.kind
  sql : st.sql = p.sql s
  columns : ∀ c ∈ p.columns, c ∈ s.columns
  params : List.Forall₂ Use.Admits p.uses st.params

/-- **A statement that follows a phrase has one placeholder for each of its parameters**, in their
order. -/
theorem Statement.Follows.placeholders {st : Statement} {s : Schema} {p : Phrase}
    (h : st.Follows s p) (hs : s.PlainNames) :
    placeholdersIn st.sql.toList = (List.range' 1 st.params.length).map placeholder := by
  have hlength : p.uses.length = st.params.length := h.params.length_eq
  rw [h.sql, (Phrase.numbered_sql hs h.columns).placeholdersIn, hlength]

end Circulation
