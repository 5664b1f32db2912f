/-
**Conditions say what the filters ask for, and nothing else.**

The text of the conditions is put together from names of columns and from operators, and both are
looked at before they get there: a name is spelled like an identifier, and an operator is one of
fifteen.  So there is a text just for filters that are in order, the first filter that is not is the
one that is refused, and the text can be read back: a name ends at its blank, an operator at the
dollar sign behind it, and a number at the blank in front of the next condition.

Main definitions:

* `IsIdentifier` — what the name of a column is spelled like;
* `Filter.Admissible`, `Filter.Offends` — filters that are in order, and what is said of others;
* `Filter.Makes` — the condition of a filter;
* `furtherSql` — the text of conditions behind another one.

Main results:

* `Filter.Comparison.sql_injective` — no two operators are spelled alike;
* `whereSql_injective` — **conditions on identifiers are read back from their text**;
* `conditionsOf_compiles` — **filters that are in order make one condition each, in their order, and
  of others the first is refused**.
-/

import Circulation.Proofs.Sql.Wording

set_option relaxedAutoImplicit false
set_option autoImplicit false

namespace Circulation

/-! ### Identifiers -/

/-- A small ASCII letter, then small letters, digits and underscores. -/
def IsIdentifier (name : String) : Prop :=
  ∃ c cs, name.toList = c :: cs ∧ ('a' ≤ c ∧ c ≤ 'z') ∧
    ∀ d ∈ cs, ('a' ≤ d ∧ d ≤ 'z') ∨ ('0' ≤ d ∧ d ≤ '9') ∨ d = '_'

theorem isLower_iff {c : Char} : c.isLower = true ↔ 'a' ≤ c ∧ c ≤ 'z' := by
  change (decide ('a' ≤ c) && decide (c ≤ 'z')) = true ↔ _
  rw [Bool.and_eq_true, decide_eq_true_eq, decide_eq_true_eq]

theorem isDigit_iff {c : Char} : c.isDigit = true ↔ '0' ≤ c ∧ c ≤ '9' := by
  simp only [Char.isDigit, Bool.and_eq_true, decide_eq_true_eq]
  rfl

/-- What can be the name of a column is an identifier. -/
theorem isColumnName_iff {name : String} : isColumnName name = true ↔ IsIdentifier name := by
  unfold isColumnName IsIdentifier
  cases name.toList with
  | nil => simp
  | cons c cs =>
      simp only [Bool.and_eq_true, List.all_eq_true, Bool.or_eq_true, isLower_iff, isDigit_iff,
        beq_iff_eq, List.cons.injEq, or_assoc]
      constructor
      · rintro ⟨hc, hcs⟩
        exact ⟨c, cs, ⟨rfl, rfl⟩, hc, hcs⟩
      · rintro ⟨c', cs', ⟨rfl, rfl⟩, hc, hcs⟩
        exact ⟨hc, hcs⟩

/-- Nothing but small letters, digits and underscores stands in an identifier. -/
theorem IsIdentifier.notMem {name : String} (h : IsIdentifier name) {d : Char}
    (hd : ¬(('a' ≤ d ∧ d ≤ 'z') ∨ ('0' ≤ d ∧ d ≤ '9') ∨ d = '_')) : d ∉ name.toList := by
  obtain ⟨c, cs, hname, hc, hcs⟩ := h
  rw [hname, List.mem_cons, not_or]
  constructor
  · rintro rfl
    exact hd (Or.inl hc)
  · intro hmem
    exact hd (hcs d hmem)

/-- No blank stands in an identifier. -/
theorem IsIdentifier.notMem_blank {name : String} (h : IsIdentifier name) : ' ' ∉ name.toList :=
  h.notMem (by decide)

/-! ### Operators -/

namespace Filter

/-- The spellings of the operators that are let through. -/
def passThroughSpellings : List String :=
  ["ILIKE", "NOT LIKE", "NOT ILIKE", "<>", "~", "~*", "!~", "!~*"]

/-- The spellings of all operators that may stand in SQL. -/
def spellings : List String := ["=", ">", ">=", "<", "<=", "!=", "LIKE"] ++ passThroughSpellings

theorem mem_passThroughSpellings_iff {spelling : String} :
    spelling ∈ passThroughSpellings ↔ ∃ p : PassThrough, spelling = p.sql := by
  constructor
  · intro h
    have hall : ∀ t ∈ passThroughSpellings, ∃ p ∈ PassThrough.all, t = p.sql := by decide
    obtain ⟨p, -, hp⟩ := hall spelling h
    exact ⟨p, hp⟩
  · rintro ⟨p, rfl⟩
    cases p <;> decide

namespace Comparison

/-- All operators that may stand in SQL. -/
def all : List Comparison :=
  [Builtin.eq, .gt, .gte, .lt, .lte, .neq, .like].map builtin ++ PassThrough.all.map passThrough

theorem sql_mem_spellings (c : Comparison) : c.sql ∈ spellings := by
  cases c with
  | builtin b => cases b <;> decide
  | passThrough p => cases p <;> decide

/-- An operator is found by its spelling. -/
theorem find?_sql (c : Comparison) : (all.find? fun d => d.sql == c.sql) = some c := by
  cases c with
  | builtin b => cases b <;> decide
  | passThrough p => cases p <;> decide

/-- **No two operators are spelled alike.** -/
theorem sql_injective : Function.Injective sql := by
  intro c d h
  have hc := c.find?_sql
  rw [h, d.find?_sql] at hc
  exact (Option.some.inj hc).symm

end Comparison

/-- How an operator stands in SQL: as it is, or in the spelling that its token is normalized to. -/
inductive Operator.Spells : Operator → Comparison → Prop
  | builtin (b : Builtin) : Spells (.builtin b) (.builtin b)
  | raw {token : String} {p : PassThrough} (h : PassThrough.normalize token = p.sql) :
      Spells (.raw token) (.passThrough p)

theorem Operator.comparison?_eq_some_iff {op : Operator} {c : Comparison} :
    op.comparison? = some c ↔ op.Spells c := by
  cases op with
  | builtin b =>
      constructor
      · intro h
        obtain rfl := Option.some.inj h
        exact .builtin b
      · rintro ⟨⟩
        rfl
  | raw token =>
      rw [comparison?, Option.map_eq_some_iff]
      constructor
      · rintro ⟨p, hp, rfl⟩
        exact .raw ((PassThrough.ofToken?_eq_some_iff token p).1 hp)
      · rintro ⟨⟩
        next p h => exact ⟨p, (PassThrough.ofToken?_eq_some_iff token p).2 h, rfl⟩

/-! ### Filters -/

/-- A filter in order: its name is spelled like an identifier in storage, and a token that is no
operator of its own is normalized to the spelling of one. -/
def Admissible (name : String) (d : Descriptor) : Prop :=
  IsIdentifier (toStorageCasing name) ∧
    ∀ token, d.op = .raw token → PassThrough.normalize token ∈ passThroughSpellings

/-- What is said of a filter that is not in order; its name is looked at first. -/
inductive Offends (name : String) (d : Descriptor) : Refusal → Prop
  | name (h : ¬IsIdentifier (toStorageCasing name)) : Offends name d (.filterName name)
  | operator (h : IsIdentifier (toStorageCasing name)) {token : String} (hop : d.op = .raw token)
      (hno : PassThrough.normalize token ∉ passThroughSpellings) :
      Offends name d (.filterOperator token name)

/-- The condition of a filter: its column, its operator, and its value, which is looked for inside a
text by one operator only. -/
structure Makes (name : String) (d : Descriptor) (cond : Condition) : Prop where
  column : cond.column = toStorageCasing name
  identifier : IsIdentifier cond.column
  comparison : d.op.Spells cond.comparison
  value : cond.value = if d.op = .builtin .like then "%" ++ d.value ++ "%" else d.value

section OfFilter

variable {name : String} {d : Descriptor}

/-- An operator spells the one that looks inside a text only if it is that one. -/
theorem Operator.Spells.eq_like_iff {op : Operator} {c : Comparison} (h : op.Spells c) :
    c = .builtin .like ↔ op = .builtin .like := by
  cases h with
  | builtin b => rw [Comparison.builtin.injEq, Operator.builtin.injEq]
  | raw h => exact iff_of_false nofun nofun

theorem ofFilter_eq_ok_iff_makes {cond : Condition} :
    Condition.ofFilter name d = .ok cond ↔ Makes name d cond := by
  rw [Schema.ofFilter_eq_ok_iff, isColumnName_iff, Operator.comparison?_eq_some_iff]
  constructor
  · rintro ⟨hname, hop, hcolumn, hvalue⟩
    refine ⟨hcolumn, hcolumn ▸ hname, hop, ?_⟩
    rw [hvalue, Comparison.bound]
    simp only [hop.eq_like_iff]
  · rintro ⟨hcolumn, hname, hop, hvalue⟩
    refine ⟨hcolumn ▸ hname, hop, hcolumn, ?_⟩
    rw [hvalue, Comparison.bound]
    simp only [hop.eq_like_iff]

/-- A filter makes a condition exactly when it is in order. -/
theorem exists_ofFilter_iff :
    (∃ cond, Condition.ofFilter name d = .ok cond) ↔ Admissible name d := by
  simp only [Schema.ofFilter_eq_ok_iff, isColumnName_iff, Operator.comparison?_eq_some_iff]
  constructor
  · rintro ⟨cond, hname, hop, -, -⟩
    refine ⟨hname, ?_⟩
    intro token htoken
    rw [htoken] at hop
    generalize cond.comparison = comparison at hop
    cases hop with
    | raw h => exact mem_passThroughSpellings_iff.2 ⟨_, h⟩
  · rintro ⟨hname, hraw⟩
    cases hop : d.op with
    | builtin b =>
        exact ⟨⟨_, .builtin b, (Comparison.builtin b).bound d.value⟩, hname, .builtin b, rfl, rfl⟩
    | raw token =>
        obtain ⟨p, hp⟩ := mem_passThroughSpellings_iff.1 (hraw token hop)
        exact ⟨⟨_, .passThrough p, (Comparison.passThrough p).bound d.value⟩, hname, .raw hp, rfl,
          rfl⟩

/-- What is said of a filter that makes no condition. -/
theorem offends_of_ofFilter {why : Refusal} (h : Condition.ofFilter name d = .error why) :
    Offends name d why := by
  unfold Condition.ofFilter at h
  extract_lets column at h
  split at h
  · next hname =>
      split at h
      · cases h
      · next hnone =>
          obtain rfl := Except.error.inj h
          cases hop : d.op with
          | builtin b =>
              rw [hop] at hnone
              cases hnone
          | raw token =>
              have hno : PassThrough.normalize token ∉ passThroughSpellings := by
                intro hmem
                obtain ⟨p, hp⟩ := mem_passThroughSpellings_iff.1 hmem
                rw [hop, Operator.comparison?_eq_some_iff.2 (.raw hp)] at hnone
                cases hnone
              exact .operator (isColumnName_iff.1 hname) hop hno
  · next hname =>
      obtain rfl := Except.error.inj h
      exact .name fun hid => hname (isColumnName_iff.2 hid)

theorem Offends.not_admissible {why : Refusal} (h : Offends name d why) : ¬Admissible name d := by
  rintro ⟨hname, hraw⟩
  cases h with
  | name hno => exact hno hname
  | operator _ hop hno => exact hno (hraw _ hop)

end OfFilter

end Filter

/-! ### Texts of conditions -/

/-- The texts of conditions, each with its number. -/
theorem conditionTexts_eq_map (i : Nat) (conds : List Condition) :
    conditionTexts i conds = (conds.zipIdx i).map fun x =>
      x.1.column ++ " " ++ x.1.comparison.sql ++ " $" ++ x.2.repr := by
  induction conds generalizing i with
  | nil => rfl
  | cons cond conds ih =>
      rw [conditionTexts, ih (i + 1), List.zipIdx_cons, List.map_cons]
      rfl

/-- The text of conditions behind another one, the first of them with the number `i`. -/
def furtherSql (i : Nat) : List Condition → String
  | [] => ""
  | cond :: conds => " AND " ++ Text.joinWith " AND " (conditionTexts i (cond :: conds))

/-- A text of conditions begins with a name that ends at a blank, an operator that ends at a dollar
sign, and a number. -/
theorem toList_joinWith_conditionTexts (i : Nat) (cond : Condition) (conds : List Condition) :
    (Text.joinWith " AND " (conditionTexts i (cond :: conds))).toList =
      cond.column.toList ++ ' ' :: ((cond.comparison.sql.toList ++ [' ']) ++
        '$' :: (i.repr.toList ++ (furtherSql (i + 1) conds).toList)) := by
  have hdollar : (" $" : String).toList = [' ', '$'] := by decide
  have hblank : (" " : String).toList = [' '] := by decide
  cases conds with
  | nil =>
      simp only [conditionTexts, Text.joinWith, Condition.sql, furtherSql, String.toList_append,
        hdollar, hblank, String.toList_empty, List.append_assoc, List.cons_append, List.nil_append,
        List.append_nil]
  | cons next conds =>
      simp only [conditionTexts, Text.joinWith, Condition.sql, furtherSql, String.toList_append,
        hdollar, hblank, List.append_assoc, List.cons_append, List.nil_append]

/-- No dollar sign stands in an operator. -/
theorem Filter.Comparison.notMem_dollar (c : Filter.Comparison) : '$' ∉ c.sql.toList ++ [' '] := by
  cases c with
  | builtin b => cases b <;> decide
  | passThrough p => cases p <;> decide

/-- A text with a mark is cut in one way at the first one. -/
theorem append_mark_inj {mark : Char} {cs cs' ds ds' : List Char} (hcs : mark ∉ cs)
    (hcs' : mark ∉ cs') (h : cs ++ mark :: ds = cs' ++ mark :: ds') : cs = cs' ∧ ds = ds' := by
  have hno : ∀ {es : List Char}, mark ∉ es → ∀ c ∈ es, (c == mark) = false := by
    intro es hes c hc
    rw [beq_eq_false_iff_ne]
    rintro rfl
    exact hes hc
  obtain ⟨hfront, -, hback⟩ :=
    cut_unique (hno hcs) (beq_self_eq_true mark) (hno hcs') (beq_self_eq_true mark) h
  exact ⟨hfront, hback⟩

/-- **Conditions behind another one are read back from their text.** -/
theorem heading_eq_of_furtherSql_eq (i : Nat) {conds conds' : List Condition}
    (hconds : ∀ c ∈ conds, IsIdentifier c.column) (hconds' : ∀ c ∈ conds', IsIdentifier c.column)
    (h : furtherSql i conds = furtherSql i conds') :
    conds.map Condition.heading = conds'.map Condition.heading := by
  induction conds generalizing i conds' with
  | nil =>
      cases conds' with
      | nil => rfl
      | cons cond' conds' => simp [furtherSql] at h
  | cons cond conds ih =>
      cases conds' with
      | nil => simp [furtherSql] at h
      | cons cond' conds' =>
          have hid := hconds cond List.mem_cons_self
          have hid' := hconds' cond' List.mem_cons_self
          have htext := congrArg String.toList ((String.append_right_inj " AND ").1 h)
          rw [toList_joinWith_conditionTexts, toList_joinWith_conditionTexts] at htext
          -- the name up to the blank, the operator up to the dollar sign, then the same number
          obtain ⟨hcolumn, hrest⟩ := append_mark_inj hid.notMem_blank hid'.notMem_blank htext
          obtain ⟨hop, hnumber⟩ := append_mark_inj cond.comparison.notMem_dollar
            cond'.comparison.notMem_dollar hrest
          have hcomparison : cond.comparison = cond'.comparison :=
            Filter.Comparison.sql_injective (String.toList_inj.1 (List.append_cancel_right hop))
          have hfurther : furtherSql (i + 1) conds = furtherSql (i + 1) conds' :=
            String.toList_inj.1 (List.append_cancel_left hnumber)
          rw [List.map_cons, List.map_cons, Condition.heading, Condition.heading,
            String.toList_inj.1 hcolumn, hcomparison,
            ih (i + 1) (fun c hc => hconds c (List.mem_cons_of_mem _ hc))
              (fun c hc => hconds' c (List.mem_cons_of_mem _ hc)) hfurther]

/-- **Conditions on identifiers are read back from their text.** -/
theorem whereSql_injective {conds conds' : List Condition}
    (hconds : ∀ c ∈ conds, IsIdentifier c.column) (hconds' : ∀ c ∈ conds', IsIdentifier c.column)
    (h : whereSql conds = whereSql conds') :
    conds.map Condition.heading = conds'.map Condition.heading := by
  refine heading_eq_of_furtherSql_eq 1 hconds hconds' ?_
  match conds, conds', h with
  | [], [], _ => rfl
  | [], _ :: _, h => simp [whereSql] at h
  | _ :: _, [], h => simp [whereSql] at h
  | cond :: conds, cond' :: conds', h =>
      rw [furtherSql, furtherSql, (String.append_right_inj "WHERE ").1 h]

/-! ### Filters all together -/

section Filters

variable {filters : Dict Filter.Descriptor} {conds : List Condition}

/-- The conditions of filters are those that the filters make, one for each. -/
theorem conditionsOf_eq_ok_iff_makes : conditionsOf filters = .ok conds ↔
    List.Forall₂ (fun e cond => Filter.Makes e.1 e.2 cond) filters.toList conds := by
  simp only [Schema.conditionsOf_eq_ok_iff, Filter.ofFilter_eq_ok_iff_makes]

/-- The columns of conditions are spelled like identifiers. -/
theorem isIdentifier_of_conditionsOf (h : conditionsOf filters = .ok conds) :
    ∀ c ∈ conds, IsIdentifier c.column := by
  have hmakes := conditionsOf_eq_ok_iff_makes.1 h
  generalize filters.toList = entries at hmakes
  clear h
  intro c hc
  induction hmakes with
  | nil => cases hc
  | cons hmake _ ih =>
      rcases List.mem_cons.1 hc with rfl | hc
      · exact hmake.identifier
      · exact ih hc

/-- **Of filters that are not in order the one with the smallest name is refused.** -/
theorem offends_of_conditionsOf {why : Refusal} (h : conditionsOf filters = .error why) :
    ∃ name d, filters.get? name = some d ∧ Filter.Offends name d why ∧
      ∀ name' d', filters.get? name' = some d' → name' < name → Filter.Admissible name' d' := by
  unfold conditionsOf at h
  obtain ⟨front, ⟨name, d⟩, back, hlist, hfront, he⟩ := mapM_eq_error_iff.1 h
  have hmem : (name, d) ∈ filters.toList := by
    rw [hlist]
    exact List.mem_append_right front List.mem_cons_self
  refine ⟨name, d, Dict.mem_toList_iff.1 hmem, Filter.offends_of_ofFilter he, ?_⟩
  intro name' d' hd' hlt
  have hin : (name', d') ∈ front := Dict.mem_front_of_lt hlist (Dict.mem_toList_iff.2 hd') hlt
  obtain ⟨cond, hcond⟩ := hfront (name', d') hin
  exact Filter.exists_ofFilter_iff.1 ⟨cond, hcond⟩

/-- There are conditions exactly when every filter is in order. -/
theorem exists_conditionsOf_iff : (∃ conds, conditionsOf filters = .ok conds) ↔
    ∀ name d, filters.get? name = some d → Filter.Admissible name d := by
  constructor
  · rintro ⟨conds, h⟩ name d hd
    obtain ⟨cond, -, hcond⟩ :=
      exists_mem_zip (Schema.conditionsOf_eq_ok_iff.1 h) (Dict.mem_toList_iff.2 hd)
    exact Filter.exists_ofFilter_iff.1 ⟨cond, hcond⟩
  · intro hall
    cases h : conditionsOf filters with
    | ok conds => exact ⟨conds, rfl⟩
    | error why =>
        obtain ⟨name, d, hd, hoffends, -⟩ := offends_of_conditionsOf h
        exact absurd (hall name d hd) hoffends.not_admissible

end Filters

/-- **Filters that are in order make one condition each, in the order of their names, and of others
the first is refused.**  The text is made of names that are spelled like identifiers, of the fifteen
operators, and of numbered placeholders; values do not show in it, and it can be read back. -/
theorem conditionsOf_compiles (filters : Dict Filter.Descriptor) :
    ((∃ conds, conditionsOf filters = .ok conds) ↔
      ∀ name d, filters.get? name = some d → Filter.Admissible name d) ∧
    (∀ why, conditionsOf filters = .error why →
      ∃ name d, filters.get? name = some d ∧ Filter.Offends name d why ∧
        ∀ name' d', filters.get? name' = some d' → name' < name → Filter.Admissible name' d') ∧
    (∀ conds, conditionsOf filters = .ok conds →
      List.Forall₂
        (fun e cond => Filter.Makes e.1 e.2 cond ∧ cond.comparison.sql ∈ Filter.spellings)
        filters.toList conds ∧
      whereSql conds = if conds = [] then "" else
        "WHERE " ++ Text.joinWith " AND " ((conds.zipIdx 1).map fun x =>
          x.1.column ++ " " ++ x.1.comparison.sql ++ " $" ++ x.2.repr)) ∧
    ∀ filters' conds conds', conditionsOf filters = .ok conds → conditionsOf filters' = .ok conds' →
      whereSql conds = whereSql conds' →
        conds.map Condition.heading = conds'.map Condition.heading := by
  refine ⟨exists_conditionsOf_iff, fun why => offends_of_conditionsOf, ?_, ?_⟩
  · intro conds h
    refine ⟨(conditionsOf_eq_ok_iff_makes.1 h).imp fun e cond hmake =>
      ⟨hmake, cond.comparison.sql_mem_spellings⟩, ?_⟩
    rw [← conditionTexts_eq_map]
    cases conds with
    | nil => rfl
    | cons cond conds => rfl
  · intro filters' conds conds' h h'
    exact whereSql_injective (isIdentifier_of_conditionsOf h) (isIdentifier_of_conditionsOf h')

/-- Filters in several spellings. -/
def spelledFilters : Dict Filter.Descriptor :=
  .ofList [("Title", .operator (.raw " not\tilike ") "x%"),
    ("author", .operator (.builtin .like) "aus"),
    ("publicationYear", .operator (.builtin .gte) "1815")]

/-- The same filters in others, and with other values. -/
def respelledFilters : Dict Filter.Descriptor :=
  .ofList [("Title", .operator (.raw "NOT ILIKE") "'; --"),
    ("author", .operator (.builtin .like) ""),
    ("publication_year", .operator (.builtin .gte) "0 OR 1 = 1")]

/-- A name and an operator that are none. -/
def smuggledFilters : Dict Filter.Descriptor :=
  .ofList [("author", .operator (.raw "= 1 OR 1 =") "1"), ("title; --", .equality "emma")]

/-- Both are compiled to one text, and the text is read back; of the filters that are not in order
the one that comes first is refused. -/
theorem conditionsOf_compiles_spelledFilters :
    (∃ conds conds', conditionsOf spelledFilters = .ok conds ∧
      conditionsOf respelledFilters = .ok conds' ∧
      whereSql conds = "WHERE title NOT ILIKE $1 AND author LIKE $2 AND publication_year >= $3" ∧
      conds.map Condition.value = ["x%", "%aus%", "1815"] ∧
      whereSql conds = whereSql conds' ∧
      conds.map Condition.heading = conds'.map Condition.heading) ∧
    conditionsOf smuggledFilters = .error (.filterOperator "= 1 OR 1 =" "author") ∧
    ∃ d, smuggledFilters.get? "author" = some d ∧
      Filter.Offends "author" d (.filterOperator "= 1 OR 1 =" "author") := by
  have hspelled : conditionsOf spelledFilters = .ok [⟨"title", .passThrough .notIlike, "x%"⟩,
      ⟨"author", .builtin .like, "%aus%"⟩, ⟨"publication_year", .builtin .gte, "1815"⟩] :=
    eq_ok_of_toOption (by decide +kernel)
  have hrespelled : conditionsOf respelledFilters = .ok [⟨"title", .passThrough .notIlike, "'; --"⟩,
      ⟨"author", .builtin .like, "%%"⟩, ⟨"publication_year", .builtin .gte, "0 OR 1 = 1"⟩] :=
    eq_ok_of_toOption (by decide +kernel)
  have hsmuggled : conditionsOf smuggledFilters =
      .error (.filterOperator "= 1 OR 1 =" "author") := by rfl
  obtain ⟨-, -, -, hread⟩ := conditionsOf_compiles spelledFilters
  obtain ⟨-, hrefused, -, -⟩ := conditionsOf_compiles smuggledFilters
  refine ⟨⟨_, _, hspelled, hrespelled, by decide +kernel, by decide +kernel, by decide +kernel, ?_⟩,
    hsmuggled, ?_⟩
  · exact hread respelledFilters _ _ hspelled hrespelled (by decide +kernel)
  · obtain ⟨name, d, hd, hoffends, -⟩ := hrefused _ hsmuggled
    have hname : name = "author" := by
      cases hoffends
      rfl
    subst hname
    exact ⟨d, hd, hoffends⟩

end Circulation
