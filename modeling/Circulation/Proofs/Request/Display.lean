/-
**Statements as they are shown.**

People are shown a statement with its values in place.  Whatever it is built from, its placeholders
are filled with values that were wrapped one by one.  A date is then a call that reads it, and a
value without quotes stands as it is.  A text can be read back from its literal; but the literal is
shown as it is only as long as the text quotes no date, since a date in it is wrapped like any
other.

Main definitions:

* `Schema.ProperNames` — a resource whose names are identifiers;
* `Statement.Built` — the statements that are built for a resource;
* `Param.Legible` — what is shown of a value.

Main results:

* `Statement.Built.follows` — a statement that is built follows a phrase;
* `Statement.display_filled` — **a statement is shown with its placeholders filled**, and what they
  are filled with;
* `Statement.display_quotedDate` — a text that quotes a date is torn.
-/

import Circulation.Proofs.Request.Binding
import Circulation.Proofs.Schema.Stored
import Circulation.Proofs.Sql.Conditions
import Circulation.Proofs.Sql.Inlining

set_option relaxedAutoImplicit false
set_option autoImplicit false

namespace Circulation

open Calendar SqlLiteral

/-! ### Names -/

/-- A resource whose names are identifiers. -/
structure Schema.ProperNames (s : Schema) : Prop where
  table : IsIdentifier s.table
  primaryKey : IsIdentifier s.primaryKey
  columns : ∀ c ∈ s.columns, IsIdentifier c.name

theorem properNames_of_mem_catalogue {s : Schema} (h : s ∈ catalogue) : s.ProperNames := by
  have hall : ∀ s ∈ catalogue, isColumnName s.table = true ∧ isColumnName s.primaryKey = true ∧
      ∀ c ∈ s.columns, isColumnName c.name = true := by decide
  obtain ⟨htable, hkey, hcolumns⟩ := hall s h
  exact ⟨isColumnName_iff.1 htable, isColumnName_iff.1 hkey,
    fun c hc => isColumnName_iff.1 (hcolumns c hc)⟩

/-- No capital, dollar sign or quote stands in an identifier, so it is a calm word. -/
theorem IsIdentifier.calm {name : String} (h : IsIdentifier name) : Calm name.toList :=
  calm_of_notMem (h.notMem (by decide)) (h.notMem (by decide)) (h.notMem (by decide))

/-- The words of a resource with proper names are calm. -/
theorem Schema.ProperNames.wording {s : Schema} (hs : s.ProperNames) : s.Wording Calm where
  nil := calm_nil
  append := calm_append
  fixed := by
    have hall : ∀ w ∈ fixedWords, '$' ∉ w.toList ∧ '\'' ∉ w.toList ∧
        opensNowhere w.toList = true := by decide
    intro w hw
    obtain ⟨hdollar, hquote, hopens⟩ := hall w hw
    exact calm_of_opensNowhere hdollar hquote hopens
  comparison := by
    intro op
    have hword : '\'' ∉ op.sql.toList ∧ opensNowhere op.sql.toList = true := by
      cases op with
      | builtin b => cases b <;> decide
      | passThrough p => cases p <;> decide
    exact calm_of_opensNowhere (plain_comparison op) hword.1 hword.2
  table := hs.table.calm
  primaryKey := hs.primaryKey.calm
  columns := fun c hc => (hs.columns c hc).calm

/-! ### Years of dates -/

/-- A value whose year, if it is a date, has four digits. -/
def Param.FourDigits (p : Param) : Prop := ∀ d, p = .date d → 0 ≤ d.year ∧ d.year ≤ 9999

theorem Column.fourDigits_of_param {c : Column} {v : Json} {p : Param} (h : c.param v = .ok p) :
    p.FourDigits := by
  rintro d rfl
  obtain ⟨htype, hnull⟩ := type_of_param h
  refine year_of_dateParam (v := v) (c := c) ?_
  have hfalse : v.isNull = false := hnull.symm
  have hctype : c.type = .date := htype.symm
  simpa [param, hfalse, hctype] using h

theorem Column.fourDigits_of_written {c : Column} {v : Json} {p : Param} (h : c.written v = .ok p) :
    p.FourDigits := by
  obtain ⟨q, hq, rfl⟩ := except_map_eq_ok_iff.1 h
  rintro d hd
  -- letters are changed in texts only
  have hqd : q = .date d := by
    cases q with
    | text s => cases hd
    | _ => exact hd
  exact fourDigits_of_param hq d hqd

theorem Schema.fourDigits_of_bindOne {s : Schema} {cond : Condition} {p : Param}
    (h : s.bindOne cond = .ok p) : p.FourDigits := by
  obtain ⟨c, -, hp⟩ := bindOne_eq_ok_iff.1 h
  split at hp
  · obtain ⟨-, rfl⟩ := hp
    rintro d ⟨⟩
  · exact Column.fourDigits_of_param hp

/-! ### Statements that are built -/

/-- The statements that are built for a resource: from conditions with what they bind, from
identifiers, and from records. -/
inductive Statement.Built (s : Schema) : Statement → Prop
  | count {conds : List Condition} {params : List Param} (h : s.bind conds = .ok params) :
      Built s (countRows s conds params)
  | page {conds : List Condition} {params : List Param} (h : s.bind conds = .ok params)
      (page : Page) : Built s (selectPage s conds params page)
  | lookup {id : String} {key : Param} (h : s.readId id = .ok key) : Built s (selectById s key)
  | change {id : String} {key : Param} {r : Record} {values : List (String × Param)}
      {st : Statement} (hkey : s.readId id = .ok key) (hvalues : s.writeValues r = .ok values)
      (h : updateById s key values = .ok st) : Built s st
  | insertion {r : Record} {values : List (String × Param)} {st : Statement}
      (hvalues : s.writeValues r = .ok values) (h : insertRow s values = .ok st) : Built s st

namespace Statement.Built

variable {s : Schema} {st : Statement}

/-- **A statement that is built follows a phrase.** -/
theorem follows (h : st.Built s) : ∃ p, st.Follows s p := by
  cases h with
  | count h =>
      obtain ⟨l, hnames, hl, hparams⟩ := Schema.exists_compared h
      exact ⟨_, countRows_follows hnames hl hparams⟩
  | page h page =>
      obtain ⟨l, hnames, hl, hparams⟩ := Schema.exists_compared h
      exact ⟨_, selectPage_follows hnames hl hparams page⟩
  | lookup h =>
      obtain ⟨c, hc⟩ := Schema.selectById_follows h
      exact ⟨_, hc⟩
  | change hkey hvalues h =>
      obtain ⟨c, hc, hadmits⟩ := Schema.admits_of_readId hkey
      exact ⟨_, updateById_follows hc hadmits (Schema.map_fst_of_writeValues hvalues)
        Schema.writable_subset (Schema.admits_of_writeValues hvalues) h⟩
  | insertion hvalues h =>
      exact ⟨_, insertRow_follows (Schema.map_fst_of_writeValues hvalues) Schema.writable_subset
        (Schema.admits_of_writeValues hvalues) h⟩

/-- The years of its dates have four digits. -/
theorem fourDigits (h : st.Built s) : ∀ p ∈ st.params, p.FourDigits := by
  have hbound : ∀ {conds params}, s.bind conds = .ok params → ∀ p ∈ params, p.FourDigits := by
    intro conds params hbind p hp
    obtain ⟨cond, -, hcond⟩ := exists_mem_zip (Schema.bind_eq_ok_iff.1 hbind).flip hp
    exact Schema.fourDigits_of_bindOne hcond
  have hread : ∀ {id key}, s.readId id = .ok key → key.FourDigits := by
    intro id key hkey
    obtain ⟨c, -, hkey⟩ := Schema.readId_eq_ok_iff.1 hkey
    exact Column.fourDigits_of_param hkey
  have hwritten : ∀ {r values}, s.writeValues r = .ok values →
      ∀ p ∈ values.map Prod.snd, p.FourDigits := by
    intro r values hvalues p hp
    obtain ⟨x, hx, rfl⟩ := List.mem_map.1 hp
    obtain ⟨y, -, -, hy⟩ := exists_mem_zip (Schema.writeValues_eq_ok_iff.1 hvalues).2.flip hx
    exact Column.fourDigits_of_written hy
  cases h with
  | count h => exact hbound h
  | page h page =>
      intro p hp
      rcases List.mem_append.1 hp with hp | hp
      · exact hbound h p hp
      · -- the numbers of the page are no dates
        rintro d rfl
        simp at hp
  | lookup h => exact List.forall_mem_singleton.2 (hread h)
  | change hkey hvalues h =>
      obtain ⟨-, rfl⟩ := Schema.updateById_eq_ok_iff.1 h
      intro p hp
      rcases List.mem_append.1 hp with hp | hp
      · exact hwritten hvalues p hp
      · obtain rfl := List.mem_singleton.1 hp
        exact hread hkey
  | insertion hvalues h =>
      obtain ⟨-, rfl⟩ := Schema.insertRow_eq_ok_iff.1 h
      exact hwritten hvalues

end Statement.Built

/-! ### What is shown of a value -/

/-- What is shown of a value: of a date the call that reads it, of a text a literal that stays as
it is unless the text quotes a date, and of another value its literal. -/
def Param.Legible : Param → Prop
  | date d => shown (.date d) = opening ++ quotedChars d.isoChars ++ closing
  | text t =>
      (shown (.text t) = quotedChars t.toList ↔ ¬QuotesDate t.toList) ∧
        ∀ rest : List Char, rest.head? ≠ some '\'' →
          readQuoted? (quotedChars t.toList ++ rest) = some (t.toList, rest)
  | p => p.shown = p.literalChars

/-- A date of a year in four digits makes a quoted date. -/
theorem Date.fits_quotedChars {d : Date} (hlow : 0 ≤ d.year) (hhigh : d.year ≤ 9999) :
    quotedDate.fits (Param.quotedChars d.isoChars) = true := by
  have hmonth := d.month_bounds
  have hday := d.exists_day
  have hdays := daysIn_le d.year d.month
  have hfits : Text.Shape.isoDate.fits d.isoChars = true := by
    rw [isoChars_eq hlow hhigh]
    exact fits_isoDate_padded (by omega) (by omega) (by omega)
  rw [quotedChars_eq, doubled_of_notMem (notMem_of_fits_isoDate hfits)]
  exact fits_quotedDate hfits

theorem Param.legible {p : Param} (h : p.FourDigits) : p.Legible := by
  match p with
  | .null t => exact shown_of_calm (calm_literalChars nofun nofun)
  | .int i => exact shown_of_calm (calm_literalChars nofun nofun)
  | .bool b => exact shown_of_calm (calm_literalChars nofun nofun)
  | .text t => exact ⟨wrapDateChars_quotedChars_iff t.toList, fun _ => readQuoted?_quotedChars _⟩
  | .date d =>
      obtain ⟨hlow, hhigh⟩ := h d rfl
      have hwrapped := wrapDateChars_literal (Date.fits_quotedChars hlow hhigh) []
      rwa [List.append_nil, wrapDateChars_nil, List.append_nil] at hwrapped

/-! ### Statements -/

/-- **A statement is shown with its placeholders filled**, each with the value of its number, as
long as the values can be counted: a date as the call that reads it, a text as a literal that it can
be read back from unless it quotes a date, and another value as its literal. -/
theorem Statement.display_filled {s : Schema} (hs : s.ProperNames) {st : Statement}
    (h : st.Built s) (hcount : st.params.length < UInt64.size) :
    Filled 1 (st.params.map Param.shown) st.sql.toList st.display.toList ∧
      ∀ p ∈ st.params, p.Legible := by
  refine ⟨?_, fun p hp => Param.legible (h.fourDigits p hp)⟩
  obtain ⟨p, hp⟩ := h.follows
  have hlayout := Phrase.layout_sql hs.wording hp.columns
  rw [hp.params.length_eq, ← hp.sql] at hlayout
  rw [Statement.display, String.toList_ofList]
  exact hlayout.filled_display rfl rfl Nat.one_pos hcount

/-- Loans that are due, with a quote in the value of the second condition. -/
def dueLoans : Statement :=
  countRows borrows
    [⟨"due_date", .builtin .lt, "2024-05-17"⟩, ⟨"status", .builtin .eq, "member's own"⟩]
    [.date ⟨2024, 5, 17, exists_seventeenthOfMay⟩, .text "member's own"]

/-- The date is shown as a call, the quote in the text twice. -/
theorem Statement.display_filled_dueLoans :
    (borrows.ProperNames ∧ dueLoans.Built borrows ∧ dueLoans.params.length < UInt64.size) ∧
      dueLoans.display = "SELECT COUNT(*) AS total FROM library_api_borrows " ++
        "WHERE due_date < TO_DATE('2024-05-17', 'YYYY-MM-DD') AND status = 'member''s own'" ∧
      Filled 1 (dueLoans.params.map Param.shown) dueLoans.sql.toList dueLoans.display.toList ∧
      ∀ p ∈ dueLoans.params, p.Legible := by
  have hs : borrows.ProperNames := properNames_of_mem_catalogue (by decide)
  have hbuilt : dueLoans.Built borrows := .count (by rfl)
  have hcount : dueLoans.params.length < UInt64.size := by decide
  refine ⟨⟨hs, hbuilt, hcount⟩, by decide +kernel, ?_⟩
  exact display_filled hs hbuilt hcount

/-- **A text that quotes a date is torn**: what stands between its quotes is wrapped, and of its
literal only the beginning and the end are left. -/
theorem Statement.display_quotedDate :
    let st := countRows books [⟨"title", .builtin .eq, "x'2024-05-01'y"⟩] [.text "x'2024-05-01'y"]
    explainedStatements "books" "filter[title]=x'2024-05-01'y" none =
        [st, selectPage books [⟨"title", .builtin .eq, "x'2024-05-01'y"⟩]
          [.text "x'2024-05-01'y"] (Query.ofPairs []).page] ∧
      st.Built books ∧
      st.params.map Param.literal = ["'x''2024-05-01''y'"] ∧
      st.display = "SELECT COUNT(*) AS total FROM library_api_books " ++
        "WHERE title = 'x'TO_DATE('2024-05-01', 'YYYY-MM-DD')'y'" ∧
      ¬"'x''2024-05-01''y'".toList <:+: st.display.toList := by
  intro st
  have hdisplay : st.display = "SELECT COUNT(*) AS total FROM library_api_books " ++
      "WHERE title = 'x'TO_DATE('2024-05-01', 'YYYY-MM-DD')'y'" := by decide +kernel
  refine ⟨by decide +kernel, .count (by rfl), by decide +kernel, hdisplay, ?_⟩
  rw [hdisplay]
  decide +kernel

end Circulation
