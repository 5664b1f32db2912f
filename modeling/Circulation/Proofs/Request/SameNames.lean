/-
**What a client sends as a value never shows in the text of a statement.**

Two requests that name the same things may differ in every value: in what filters compare with, in
the page they ask for, in identifiers, in attributes, and in the day they are made.  On one script
they execute the same texts one after the other, as far as both of them get.

Main definitions:

* `Request.SameNames` — two requests that name the same things;
* `AgreeInText` — two lists of statements with the same text wherever both have a statement.

Main result: `statements_agreeInText` — **requests that name the same things agree in text**.
-/

import Circulation.Proofs.Calendar.Literal
import Circulation.Proofs.Request.Statements
import Circulation.Proofs.Sql.Wording

set_option relaxedAutoImplicit false
set_option autoImplicit false

namespace Circulation

/-! ### Agreement in text -/

/-- Wherever both lists have a statement, the two are of one kind and have one text. -/
def AgreeInText (l l' : List Statement) : Prop :=
  ∀ (k : Nat) (st st' : Statement), l[k]? = some st → l'[k]? = some st' → st.SameText st'

namespace AgreeInText

theorem nil_left (l : List Statement) : AgreeInText [] l := by
  intro k st st' h
  simp at h

theorem nil_right (l : List Statement) : AgreeInText l [] := by
  intro k st st' _ h
  simp at h

theorem cons {st st' : Statement} {l l' : List Statement} (h : st.SameText st')
    (hl : AgreeInText l l') : AgreeInText (st :: l) (st' :: l') := by
  intro k u u' hu hu'
  cases k with
  | zero =>
      obtain rfl : st = u := by simpa using hu
      obtain rfl : st' = u' := by simpa using hu'
      exact h
  | succ k => exact hl k u u' (by simpa using hu) (by simpa using hu')

/-- The beginnings of lists that agree agree. -/
theorem of_beginnings {l l' m m' : List Statement} (h : AgreeInText m m') (hl : l <+: m)
    (hl' : l' <+: m') : AgreeInText l l' := by
  intro k st st' hst hst'
  obtain ⟨t, rfl⟩ := hl
  obtain ⟨t', rfl⟩ := hl'
  obtain ⟨hk, -⟩ := List.getElem?_eq_some_iff.1 hst
  obtain ⟨hk', -⟩ := List.getElem?_eq_some_iff.1 hst'
  refine h k st st' ?_ ?_
  · rw [List.getElem?_append_left hk]
    exact hst
  · rw [List.getElem?_append_left hk']
    exact hst'

end AgreeInText

/-! ### Requests that name the same things -/

/-- The keys of the query of an address, in order; a query whose bytes are no text has none. -/
def queryKeys? (query : String) : Option (List String) :=
  match Text.formPairs? (query.toList.dropWhile (· == '?')) with
  | .ok pairs => some (pairs.map Prod.fst)
  | .error _ => none

/-- Two operations of one kind that name the same query keys or the same attributes. -/
inductive Operation.SameNames : Operation → Operation → Prop
  | list {pairs pairs' : List (String × String)} (h : pairs.map Prod.fst = pairs'.map Prod.fst) :
      SameNames (.list (.ofPairs pairs)) (.list (.ofPairs pairs'))
  | get (id id' : String) : SameNames (.get id) (.get id')
  | update (id id' : String) {attributes attributes' : Record}
      (h : attributes.keys = attributes'.keys) :
      SameNames (.update id attributes) (.update id' attributes')
  | create {attributes attributes' : Record} (h : attributes.keys = attributes'.keys) :
      SameNames (.create attributes) (.create attributes')

/-- Two requests on one resource that name the same things. -/
inductive Request.SameNames : Request → Request → Prop
  | operation (s : Schema) (today today' : Date) {op op' : Operation} (h : op.SameNames op') :
      SameNames (.operation ⟨s, today⟩ op) (.operation ⟨s, today'⟩ op')
  | page (collection : String) {query query' : String}
      (h : ∀ keys ∈ queryKeys? query, ∀ keys' ∈ queryKeys? query', keys = keys') :
      SameNames (.explanation collection query none) (.explanation collection query' none)
  | row (collection query query' id id' : String) :
      SameNames (.explanation collection query (some id))
        (.explanation collection query' (some id'))

/-! ### Operations -/

section Operations

variable {s : Schema} {log log' : List Exchange}

theorem GetCourse.agreeInText {id id' : String} {a a' : Answer (Option Record)}
    (h : GetCourse s id log a) (h' : GetCourse s id' log' a') :
    AgreeInText (statementsOf log) (statementsOf log') := by
  obtain hnil | ⟨select, hselect, hl⟩ := h.statements
  · rw [hnil]
    exact AgreeInText.nil_left _
  obtain hnil' | ⟨select', hselect', hl'⟩ := h'.statements
  · rw [hnil']
    exact AgreeInText.nil_right _
  rw [hl, hl']
  exact AgreeInText.cons (Schema.lookup_sameText hselect hselect') (AgreeInText.nil_left [])

theorem ListCourse.agreeInText {q q' : Query} (hq : q.filterNames = q'.filterNames)
    {a a' : Answer (PageOf Record)} (h : ListCourse s q log a) (h' : ListCourse s q' log' a') :
    AgreeInText (statementsOf log) (statementsOf log') := by
  obtain hnil | ⟨count, select, hplan, hl⟩ := h.statements
  · rw [hnil]
    exact AgreeInText.nil_left _
  obtain hnil' | ⟨count', select', hplan', hl'⟩ := h'.statements
  · rw [hnil']
    exact AgreeInText.nil_right _
  -- both get to the store, though perhaps not to the second statement
  obtain ⟨hcount, hselect⟩ := Schema.plan_sameText hq hplan hplan'
  exact (AgreeInText.cons hcount (AgreeInText.cons hselect (AgreeInText.nil_left []))).of_beginnings
    hl hl'

theorem CreateCourse.agreeInText {today today' : Date} {attributes attributes' : Record}
    (hnames : attributes.keys = attributes'.keys) {a a' : Answer Record}
    (h : CreateCourse ⟨s, today⟩ attributes log a)
    (h' : CreateCourse ⟨s, today'⟩ attributes' log' a') :
    AgreeInText (statementsOf log) (statementsOf log') := by
  obtain hnil | ⟨insert, hinsert, hl⟩ := h.statements
  · rw [hnil]
    exact AgreeInText.nil_left _
  obtain hnil' | ⟨insert', hinsert', hl'⟩ := h'.statements
  · rw [hnil']
    exact AgreeInText.nil_right _
  rw [hl, hl']
  have hsame := Schema.creation_sameText hnames hinsert hinsert'
  exact AgreeInText.cons hsame (AgreeInText.nil_left [])

/-- Updates agree if the first statement of both finds the same. -/
theorem UpdateCourse.agreeInText {id id' : String} {attributes attributes' : Record}
    (hnames : attributes.keys = attributes'.keys) {a a' : Answer (Option Record)}
    (h : UpdateCourse s id attributes log a) (h' : UpdateCourse s id' attributes' log' a')
    (hreply : ∀ r r', (repliesOf log)[0]? = some r → (repliesOf log')[0]? = some r' → r = r') :
    AgreeInText (statementsOf log) (statementsOf log') := by
  obtain hnil | ⟨key, changes, -, hchanges, hl⟩ := h.statements
  · rw [hnil]
    exact AgreeInText.nil_left _
  obtain hnil' | ⟨key', changes', -, hchanges', hl'⟩ := h'.statements
  · rw [hnil']
    exact AgreeInText.nil_right _
  have hselect : (selectById s key).SameText (selectById s key') := ⟨rfl, rfl⟩
  obtain hone | ⟨found, row, update, hfound, hrow, hupdate, hl⟩ := hl
  · -- one of the two stops behind the look-up, so no text behind it is compared
    obtain hone' | ⟨found', row', update', -, -, -, hl'⟩ := hl'
    · rw [hone, hone']
      exact AgreeInText.cons hselect (AgreeInText.nil_left [])
    · rw [hone]
      exact (AgreeInText.cons hselect (AgreeInText.nil_left _)).of_beginnings List.prefix_rfl hl'
  · obtain hone' | ⟨found', row', update', hfound', hrow', hupdate', hl'⟩ := hl'
    · rw [hone']
      exact (AgreeInText.cons hselect (AgreeInText.nil_right _)).of_beginnings hl List.prefix_rfl
    · -- both write back, and by the reply they write back the same row
      obtain rfl : found = found' := Except.ok.inj (hreply _ _ hfound hfound')
      obtain rfl : row = row' := by simpa [hrow] using hrow'
      have hc := Schema.changes_sameNames hnames hchanges hchanges'
      have hsame := Schema.writeBack_sameText hc hupdate hupdate'
      exact (AgreeInText.cons hselect (AgreeInText.cons hsame
        (AgreeInText.cons hselect (AgreeInText.nil_left [])))).of_beginnings hl hl'

end Operations

/-- Operations that name the same things agree in text on one script. -/
theorem Operation.agreeInText {op op' : Operation} (h : op.SameNames op') (s : Schema)
    (today today' : Date) (limit : Duration) (script : Script) :
    AgreeInText ((op.session ⟨s, today⟩).run (Script.backend limit) script).statements
      ((op'.session ⟨s, today'⟩).run (Script.backend limit) script).statements := by
  rw [Session.statements_run, Session.statements_run]
  have hpath := Session.path_run (Script.backend limit) (op.session ⟨s, today⟩) script
  have hpath' := Session.path_run (Script.backend limit) (op'.session ⟨s, today'⟩) script
  cases h with
  | list h =>
      exact (ListCourse.of_path hpath).agreeInText (Query.filterNames_ofPairs_congr h)
        (ListCourse.of_path hpath')
  | get id id' => exact (GetCourse.of_path hpath).agreeInText (GetCourse.of_path hpath')
  | update id id' h =>
      refine (UpdateCourse.of_path hpath).agreeInText h (UpdateCourse.of_path hpath') ?_
      intro r r' hr hr'
      rw [Session.replies_log limit _ script hr, Session.replies_log limit _ script hr']
  | create h =>
      exact (CreateCourse.of_path hpath).agreeInText h (CreateCourse.of_path hpath')

/-! ### Requests -/

/-- **Requests that name the same things agree in text**: on one script the statements that both
execute, or show, differ in their parameters only. -/
theorem statements_agreeInText {x y : Request} (h : x.SameNames y) (limit : Duration)
    (script : Script) :
    AgreeInText (x.statements (Script.backend limit) script)
      (y.statements (Script.backend limit) script) := by
  cases h with
  | operation s today today' h => exact Operation.agreeInText h s today today' limit script
  | @page collection query query' h =>
      simp only [Request.statements]
      obtain hnil | ⟨s, pairs, count, select, hs, hq, hplan, hl⟩ :=
        explainedStatements_none collection query
      · rw [hnil]
        exact AgreeInText.nil_left _
      obtain hnil' | ⟨s', pairs', count', select', hs', hq', hplan', hl'⟩ :=
        explainedStatements_none collection query'
      · rw [hnil']
        exact AgreeInText.nil_right _
      obtain rfl : s = s' := Option.some.inj (hs.symm.trans hs')
      have hkeys : pairs.map Prod.fst = pairs'.map Prod.fst := by
        refine h _ ?_ _ ?_
        · simp [queryKeys?, hq]
        · simp [queryKeys?, hq']
      obtain ⟨hcount, hselect⟩ :=
        Schema.plan_sameText (Query.filterNames_ofPairs_congr hkeys) hplan hplan'
      rw [hl, hl']
      exact AgreeInText.cons hcount (AgreeInText.cons hselect (AgreeInText.nil_left []))
  | row collection query query' id id' =>
      simp only [Request.statements]
      obtain hnil | ⟨s, select, hs, hlookup, hl⟩ :=
        explainedStatements_some collection query id
      · rw [hnil]
        exact AgreeInText.nil_left _
      obtain hnil' | ⟨s', select', hs', hlookup', hl'⟩ :=
        explainedStatements_some collection query' id'
      · rw [hnil']
        exact AgreeInText.nil_right _
      obtain rfl : s = s' := Option.some.inj (hs.symm.trans hs')
      rw [hl, hl']
      exact AgreeInText.cons (Schema.lookup_sameText hlookup hlookup') (AgreeInText.nil_left [])

/-- An update of a book that is there, whatever the title shall be. -/
def retitling (id title : String) : Request :=
  .operation ⟨books, ⟨2024, 5, 17, Calendar.exists_seventeenthOfMay⟩⟩
    (.update id (.ofList [("title", .str title)]))

/-- A store that finds one book, and changes one row. -/
def oneBook : Script :=
  ⟨[], [.now (.ofRows [.ofList [("title", .str "emma")]]), .now (.ofCount 1)], [], []⟩

/-- Two updates run to their end, differ in their parameters, and agree in text. -/
theorem retitlings_agreeInText :
    let found := (retitling "7" "Dune").statements (Script.backend (.ofSeconds 5)) oneBook
    let found' := (retitling "8" "'; --").statements (Script.backend (.ofSeconds 5)) oneBook
    AgreeInText found found' ∧ found.length = 3 ∧ found'.length = 3 ∧
      found.map Statement.params ≠ found'.map Statement.params := by
  refine ⟨?_, by decide +kernel, by decide +kernel, by decide +kernel⟩
  exact statements_agreeInText (.operation books _ _ (.update "7" "8" (by decide +kernel))) _ _

end Circulation
