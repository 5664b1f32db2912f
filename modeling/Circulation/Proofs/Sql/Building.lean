/-
**Statements as they are built, and the phrases that they follow.**

Every statement is built by one of five functions.  Each of them counts its placeholders in its own
way; here their texts are found to be those of the phrases.

Main results:

* `countRows_follows`, `selectPage_follows`, `selectById_follows`, `updateById_follows`,
  `insertRow_follows` — **a statement follows its phrase as soon as its values do**.
-/

import Circulation.Proofs.Page
import Circulation.Proofs.Sql.Phrase
import Circulation.Proofs.Sql.Wording

set_option relaxedAutoImplicit false
set_option autoImplicit false

namespace Circulation

/-! ### Conditions -/

/-- The text of conditions is the text of what they compare. -/
theorem conditionTexts_eq {conds : List Condition} {l : List Compared}
    (h : l.map (fun x => (x.1.name, x.2)) = conds.map Condition.heading) (i : Nat) :
    conditionTexts i conds = slotTexts Compared.front i l := by
  induction conds generalizing l i with
  | nil =>
      obtain rfl : l = [] := List.map_eq_nil_iff.1 h
      rfl
  | cons cond conds ih =>
      match l, h with
      | x :: l, h =>
          obtain ⟨hhead, htail⟩ := List.cons.inj h
          obtain ⟨hname, hop⟩ := Prod.mk.inj hhead
          have hdollar : (" $" : String) = " " ++ "$" := by decide
          rw [conditionTexts, slotTexts_cons, ih htail, Condition.sql, Compared.front, placeholder,
            ← hname, ← hop, hdollar]
          simp only [String.append_assoc]

/-- What is compared stands behind a blank, unless there is nothing. -/
theorem comparedSql_eq {conds : List Condition} {l : List Compared}
    (h : l.map (fun x => (x.1.name, x.2)) = conds.map Condition.heading) :
    comparedSql l = if whereSql conds = "" then "" else " " ++ whereSql conds := by
  match conds, l, h with
  | [], [], _ => rfl
  | cond :: conds, x :: l, h =>
      have htexts := conditionTexts_eq h 1
      have hblank : (" WHERE " : String) = " " ++ "WHERE " := by decide
      have hne : whereSql (cond :: conds) ≠ "" := by simp [whereSql]
      rw [if_neg hne]
      unfold comparedSql whereSql
      simp only
      rw [htexts, hblank, String.append_assoc]

/-- Two parts become one with the blank between them. -/
theorem joinWith_merge (separator a b : String) (rest : List String) :
    Text.joinWith separator (a :: b :: rest) =
      Text.joinWith separator ((a ++ separator ++ b) :: rest) := by
  cases rest with
  | nil => rfl
  | cons c rest =>
      rw [Text.joinWith, Text.joinWith, Text.joinWith]
      simp only [String.append_assoc]

/-- A part behind the first one brings a blank along, unless it is empty. -/
theorem joinParts_second {a : String} (ha : a ≠ "") (b : String) (rest : List String) :
    joinParts (a :: b :: rest) =
      joinParts ((a ++ if b = "" then "" else " " ++ b) :: rest) := by
  by_cases hb : b = ""
  · simp [joinParts, hb, ha]
  · have hab : a ++ (" " ++ b) ≠ "" := by simp [ha]
    rw [if_neg hb]
    simp only [joinParts, List.filter_cons, ha, hb, hab, ne_eq, not_false_eq_true, decide_true,
      if_true, joinWith_merge, String.append_assoc]

@[simp] theorem joinParts_singleton (a : String) : joinParts [a] = a := by
  by_cases ha : a = ""
  · simp [joinParts, ha]
  · simp [joinParts, ha]

/-! ### Reading statements -/

section Reading

variable {s : Schema} {conds : List Condition} {l : List Compared} {params : List Param}

theorem countRows_follows
    (hconds : l.map (fun x => (x.1.name, x.2)) = conds.map Condition.heading)
    (hl : ∀ x ∈ l, x.1 ∈ s.columns)
    (hparams : List.Forall₂ Use.Admits (l.map fun x => .comparison x.1 x.2) params) :
    (countRows s conds params).Follows s (.count l) where
  kind := rfl
  sql := by
    have hne : "SELECT COUNT(*) AS total FROM " ++ s.table ≠ "" := by simp
    have hsql : (countRows s conds params).sql =
        joinParts ["SELECT COUNT(*) AS total FROM " ++ s.table, whereSql conds] := rfl
    rw [hsql, joinParts_second hne, ← comparedSql_eq hconds]
    exact joinParts_singleton _
  columns := List.forall_mem_map.2 hl
  params := hparams

/-- The text of a page: behind the conditions the order and the numbers of the page. -/
theorem selectPage_sql (hconds : l.map (fun x => (x.1.name, x.2)) = conds.map Condition.heading)
    (page : Page) : (selectPage s conds params page).sql = pageSql s l := by
  -- of the parts of the text only the conditions may be empty
  have hne : "SELECT * FROM " ++ s.table ≠ "" := by simp
  have hfront : "SELECT * FROM " ++ s.table ++ comparedSql l ≠ "" := by simp
  have horder : "ORDER BY " ++ s.primaryKey ≠ "" := by simp
  have hpaging : pagingSql (nextPlaceholder conds) ≠ "" := by simp [pagingSql]
  have hlength : conds.length = l.length := (length_eq_of_map_eq_map hconds).symm
  have hblank : (" ORDER BY " : String) = " " ++ "ORDER BY " := by decide
  have hblank' : (" OFFSET " : String) = " " ++ "OFFSET " := by decide
  have hsql : (selectPage s conds params page).sql =
      joinParts ["SELECT * FROM " ++ s.table, whereSql conds, "ORDER BY " ++ s.primaryKey,
        pagingSql (nextPlaceholder conds)] := rfl
  rw [hsql, joinParts_second hne, ← comparedSql_eq hconds, joinParts_second hfront, if_neg horder,
    joinParts_second (by simp), if_neg hpaging, joinParts_singleton]
  unfold pageSql pagingSql nextPlaceholder
  rw [hlength, hblank, hblank']
  simp only [String.append_assoc]

theorem selectPage_follows
    (hconds : l.map (fun x => (x.1.name, x.2)) = conds.map Condition.heading)
    (hl : ∀ x ∈ l, x.1 ∈ s.columns)
    (hparams : List.Forall₂ Use.Admits (l.map fun x => .comparison x.1 x.2) params) (page : Page) :
    (selectPage s conds params page).Follows s (.page l page) where
  kind := rfl
  sql := selectPage_sql hconds page
  columns := List.forall_mem_map.2 hl
  params := by
    refine List.rel_append hparams (.cons ?_ (.cons ?_ .nil))
    · refine .offset page.toInt_offset ?_
      have hone := page.one_le_toNat_number
      rw [page.toInt_offset]
      exact Int.mul_nonneg (by omega) (by omega)
    · have hone := page.one_le_toNat_size
      have hle := page.toNat_size_le
      refine .size page.toInt_limit ?_ ?_
      · rw [page.toInt_limit]
        omega
      · rw [page.toInt_limit]
        omega

theorem selectById_follows {key : Column} (hkey : s.column? s.primaryKey = some key) {p : Param}
    (hp : Use.Admits (.comparison key (.builtin .eq)) p) :
    (selectById s p).Follows s (.lookup key) where
  kind := rfl
  sql := by
    have hname : key.name = s.primaryKey := (Schema.mem_of_column? hkey).2
    have hslot : (" = $1" : String) = " = " ++ placeholder 1 := by decide
    unfold selectById Phrase.sql lookupSql
    simp only
    rw [hname, hslot]
    simp only [String.append_assoc]
  columns := by
    intro c hc
    obtain rfl := List.mem_singleton.1 hc
    exact (Schema.mem_of_column? hkey).1
  params := .cons hp .nil

end Reading

/-! ### Writing statements -/

section Writing

variable {s : Schema} {l : List Column} {values : List (String × Param)}

/-- The texts of assignments are those of the columns. -/
theorem assignmentTexts_eq (i : Nat) (l : List Column) :
    assignmentTexts i (l.map Column.name) = slotTexts assignmentFront i l := by
  induction l generalizing i with
  | nil => rfl
  | cons c l ih =>
      rw [List.map_cons, assignmentTexts, slotTexts_cons, ih (i + 1)]
      rfl

theorem updateById_follows {key : Column} (hkey : s.column? s.primaryKey = some key) {p : Param}
    (hp : Use.Admits (.comparison key (.builtin .eq)) p)
    (hnames : values.map Prod.fst = l.map Column.name) (hl : ∀ c ∈ l, c ∈ s.columns)
    (hvalues : List.Forall₂ Use.Admits (l.map .assignment) (values.map Prod.snd)) {st : Statement}
    (h : updateById s p values = .ok st) : st.Follows s (.change l key) := by
  obtain ⟨-, rfl⟩ := Schema.updateById_eq_ok_iff.1 h
  have hname : key.name = s.primaryKey := (Schema.mem_of_column? hkey).2
  have hlength : values.length = l.length := length_eq_of_map_eq_map hnames
  refine ⟨rfl, ?_, ?_, ?_⟩
  · unfold Phrase.sql changeSql
    simp only
    rw [hnames, assignmentTexts_eq, hlength, hname]
  · intro c hc
    rcases List.mem_append.1 hc with hc | hc
    · exact hl c hc
    · obtain rfl := List.mem_singleton.1 hc
      exact (Schema.mem_of_column? hkey).1
  · exact List.rel_append hvalues (.cons hp .nil)

theorem insertRow_follows (hnames : values.map Prod.fst = l.map Column.name)
    (hl : ∀ c ∈ l, c ∈ s.columns)
    (hvalues : List.Forall₂ Use.Admits (l.map .assignment) (values.map Prod.snd)) {st : Statement}
    (h : insertRow s values = .ok st) : st.Follows s (.insertion l) := by
  obtain ⟨-, rfl⟩ := Schema.insertRow_eq_ok_iff.1 h
  have hlength : values.length = l.length := length_eq_of_map_eq_map hnames
  refine ⟨rfl, ?_, hl, hvalues⟩
  unfold Phrase.sql insertionSql
  simp only
  rw [hnames, hlength]

end Writing

end Circulation
