/-
**What is explained is what is executed, as long as the keys come in their order.**

Explanations take the pairs of a query as they stand.  The service keeps them in a dictionary first
and takes them in the order of their keys.  Both make one plan of one query, where of the keys on
one field the greatest stands last; where it does not, they may differ in the filter that counts.

Main results:

* `formPairs_of_formPairs?` — the service reads the pairs that an explanation reads;
* `ListCourse.statements_of_plan` — how much of a plan a list executes;
* `Http.App.list_explained` — **the service refuses what an explanation refuses, and executes what
  it shows**;
* `Http.App.explained_twoTitles` — two keys on one field that are explained in another way.
-/

import Circulation.Http.Router
import Circulation.Proofs.Filter.Query
import Circulation.Proofs.Request.Statements

set_option relaxedAutoImplicit false
set_option autoImplicit false

namespace Circulation

/-! ### Strict and lenient reading -/

namespace Text

/-- Bytes that are UTF-8 throughout read the same either way. -/
theorem decodeLossy_of_decode? {bs : List UInt8} {cs : List Char} (h : decode? bs = some cs) :
    decodeLossy bs = cs := by
  unfold decode? at h
  unfold decodeLossy
  generalize pieces bs = ps at h ⊢
  -- none of the pieces is broken
  induction ps generalizing cs with
  | nil =>
      cases h
      rfl
  | cons p ps ih =>
      rw [List.mapM_cons] at h
      obtain ⟨c, hc, h⟩ := Option.bind_eq_some_iff.1 h
      obtain ⟨ds, hds, h⟩ := Option.bind_eq_some_iff.1 h
      cases h
      obtain rfl : p = some c := hc
      rw [List.map_cons, ih hds]
      rfl

theorem formText_of_formText? {cs : List Char} {t : String} (h : formText? cs = .ok t) :
    formText cs = t := by
  unfold formText? at h
  cases hd : percentDecode? (plusToBlank cs) with
  | none =>
      rw [hd] at h
      cases h
  | some ds =>
      rw [hd] at h
      cases h
      rw [formText, percentDecodeLossy, decodeLossy_of_decode? hd]

/-- Pairs whose bytes are UTF-8 throughout read the same either way. -/
theorem formPairs_of_formPairs? {cs : List Char} {pairs : List (String × String)}
    (h : formPairs? cs = .ok pairs) : formPairs cs = pairs := by
  have hpairs := mapM_eq_ok_iff.1 h
  have hmap := map_eq_map_of_forall₂ (f := fun p => (formText p.1, formText p.2)) (g := id) hpairs
  rw [List.map_id] at hmap
  refine (hmap ?_).symm
  intro p pair hpair
  obtain ⟨name, hname, hpair⟩ := except_bind_eq_ok_iff.1 hpair
  obtain ⟨value, hvalue, hpair⟩ := except_bind_eq_ok_iff.1 hpair
  cases hpair
  rw [formText_of_formText? hname, formText_of_formText? hvalue]
  rfl

end Text

/-! ### How much of a plan is executed -/

section Plan

variable {s : Schema} {q : Query}

/-- A list without a plan is refused. -/
theorem ListCourse.refused_of_plan {log : List Exchange} {a : Answer (PageOf Record)}
    (h : ListCourse s q log a) {why : Refusal} (hplan : s.plan q = .error why) :
    log = [] ∧ a = .error (.validation why) := by
  have hne : ∀ p, s.plan q ≠ .ok p := by
    intro p hp
    rw [hplan] at hp
    cases hp
  cases h with
  | refused h =>
      rw [hplan] at h
      cases h
      exact ⟨rfl, rfl⟩
  | unavailable h e => exact absurd h (hne _)
  | countFailed h e r => exact absurd h (hne _)
  | uncounted h total r => exact absurd h (hne _)
  | failed h total e r => exact absurd h (hne _)
  | uncommitted h total found e => exact absurd h (hne _)
  | answered h total found => exact absurd h (hne _)

/-- A list executes its plan from the beginning on, and all of it if it has an answer. -/
theorem ListCourse.statements_of_plan {log : List Exchange} {a : Answer (PageOf Record)}
    (h : ListCourse s q log a) {count select : Statement}
    (hplan : s.plan q = .ok (count, select)) :
    statementsOf log <+: [count, select] ∧
      (a.isOk = true → statementsOf log = [count, select]) := by
  constructor
  · obtain hnil | ⟨count', select', hplan', hl⟩ := h.statements
    · rw [hnil]
      exact List.nil_prefix
    · rw [hplan] at hplan'
      cases hplan'
      exact hl
  · intro ha
    cases h with
    | answered h total found =>
        rw [hplan] at h
        cases h
        rfl
    | _ => cases ha

/-- What is explained follows from the plan. -/
theorem explain_of_plan {collection query : String}
    (hs : Schema.ofCollection? collection = some s) {pairs : List (String × String)}
    (hpairs : Text.formPairs? (query.toList.dropWhile (· == '?')) = .ok pairs) :
    explain collection query none =
      ((s.plan (.ofPairs pairs)).map fun p => .rows p.1 p.2).mapError .refused := by
  unfold explain
  simp only [hs, queryOf?, hpairs, bind, Except.bind]
  cases s.plan (.ofPairs pairs) <;> rfl

end Plan

/-! ### The service -/

namespace Http

/-- Only an answer that is none of a problem has the status of success. -/
theorem answered_status {α : Type} {encode : α → Response} (hencode : ∀ a, (encode a).status = 200)
    (a : Answer α) : (answered encode a).status = 200 ↔ a.isOk = true := by
  cases a with
  | ok a => exact iff_of_true (hencode a) rfl
  | error f =>
      refine iff_of_false ?_ (by simp [Except.isOk, Except.toBool])
      change (Problem.ofFailure f).status ≠ 200
      cases Problem.ofFailure f <;> simp [Problem.status]

namespace App

variable {σ : Type}

/-- The response to rows. -/
def rowsResponse (app : App) (s : Schema) (request : Request) (rows : PageOf Record) : Response :=
  .ofJson 200 ((app.service s).page rows (Dict.ofList (Text.formPairs request.query)))

/-- A list of the service is one of the repository, put in words. -/
theorem list_eq_map {app : App} {name : List Char} {request : Request} {collection : String}
    (hname : Text.percentDecode? name = some collection.toList) {s : Schema}
    (hs : Schema.ofCollection? collection = some s) :
    app.list name request = ((app.repository s).list
      (.ofPairs (Dict.ofList (Text.formPairs request.query)).toList)).map
        (answered (app.rowsResponse s request)) := by
  unfold list checked pathText schemaOf
  simp only [hname, String.ofList_toList, hs]
  rfl

/-- **The service refuses what an explanation refuses, for the same reason, and executes what it
shows**, statement by statement and as far as the store lets it come, where of the keys on one field
the greatest stands last. -/
theorem list_explained {collection query : String} {s : Schema}
    (hs : Schema.ofCollection? collection = some s) {pairs : List (String × String)}
    (hpairs : Text.formPairs? (query.toList.dropWhile (· == '?')) = .ok pairs)
    (horder : Query.LastKeyIsGreatest pairs) (app : App) {name : List Char}
    (hname : Text.percentDecode? name = some collection.toList) {request : Request}
    (hquery : request.query = query.toList.dropWhile (· == '?')) {b : Backend σ} {store : σ}
    {run : Run Response σ} (hrun : run = (app.list name request).run b store) :
    (∃ why, explain collection query none = .error (.refused why) ∧
      run.answer = (Problem.ofFailure (.validation why)).response ∧ run.trace = []) ∨
    ∃ count page, explain collection query none = .ok (.rows count page) ∧
      s.plan (.ofPairs (Dict.ofList (Text.formPairs request.query)).toList) = .ok (count, page) ∧
      run.statements <+: [count, page] ∧
      (run.answer.status = 200 → run.statements = [count, page]) := by
  have hsame : Query.ofPairs (Dict.ofList (Text.formPairs request.query)).toList =
      Query.ofPairs pairs := by
    rw [hquery, Text.formPairs_of_formPairs? hpairs, Query.ofPairs_toList_ofList horder]
  let listing := ((app.repository s).list (.ofPairs pairs)).run b store
  replace hrun : run = ⟨answered (app.rowsResponse s request) listing.answer, listing.store,
      listing.trace⟩ := by
    rw [hrun, list_eq_map hname hs, Session.run_map, hsame]
  have hcourse : ListCourse s (.ofPairs pairs) _ listing.answer :=
    ListCourse.of_path (Session.path_run b ((app.repository s).list (.ofPairs pairs)) store)
  rw [hsame, explain_of_plan hs hpairs]
  rcases hplan : s.plan (.ofPairs pairs) with why | ⟨count, page⟩
  · -- without a plan neither of them goes on
    obtain ⟨hlog, hanswer⟩ := hcourse.refused_of_plan hplan
    refine Or.inl ⟨why, rfl, ?_, ?_⟩
    · rw [hrun, hanswer]
      rfl
    · rw [hrun]
      change listing.trace = []
      rw [Session.trace_run, hlog]
      rfl
  · obtain ⟨hfront, hall⟩ := hcourse.statements_of_plan hplan
    rw [← Session.statements_run] at hfront hall
    refine Or.inr ⟨count, page, rfl, rfl, ?_, ?_⟩
    · rw [hrun]
      exact hfront
    · intro hstatus
      rw [hrun] at hstatus ⊢
      exact hall ((answered_status (fun _ => rfl) listing.answer).1 hstatus)

/-- A store that counts one row. -/
def oneRow : Script := ⟨[], [.now (.ofRows [.ofList [("total", .num (.int 1))]])], [], []⟩

/-- Two keys on the title with the greatest one last: the comparison counts, and it is executed. -/
theorem list_explained_greatestLast :
    let query := "filter[title]=emma&page[size]=10&filter[title][gt]=d"
    let pairs := [("filter[title]", "emma"), ("page[size]", "10"), ("filter[title][gt]", "d")]
    let app : App := ⟨"", .all, ⟨2024, 5, 17, by decide⟩⟩
    let request : Request := ⟨"GET", "/library/books?" ++ query, [], ""⟩
    let run := (app.list "books".toList request).run (Script.backend (.ofSeconds 5)) oneRow
    (Text.formPairs? (query.toList.dropWhile (· == '?')) = .ok pairs ∧
      Query.LastKeyIsGreatest pairs ∧
      run.statements.map Statement.params = [[.text "d"], [.text "d", .int 0, .int 10]]) ∧
    ((∃ why, explain "books" query none = .error (.refused why) ∧
        run.answer = (Problem.ofFailure (.validation why)).response ∧ run.trace = []) ∨
      ∃ count page, explain "books" query none = .ok (.rows count page) ∧
        books.plan (.ofPairs (Dict.ofList (Text.formPairs request.query)).toList) =
          .ok (count, page) ∧
        run.statements <+: [count, page] ∧
        (run.answer.status = 200 → run.statements = [count, page])) := by
  intro query pairs app request run
  have hpairs : Text.formPairs? (query.toList.dropWhile (· == '?')) = .ok pairs := by
    decide +kernel
  have horder : Query.LastKeyIsGreatest pairs := by decide +kernel
  have hname : Text.percentDecode? "books".toList = some "books".toList := by decide +kernel
  have hquery : request.query = query.toList.dropWhile (· == '?') := by decide +kernel
  have hparams : run.statements.map Statement.params =
      [[.text "d"], [.text "d", .int 0, .int 10]] := by
    decide +kernel
  have hs : Schema.ofCollection? "books" = some books := by rfl
  refine ⟨⟨hpairs, horder, hparams⟩, ?_⟩
  exact list_explained hs hpairs horder app hname hquery rfl

/-- With the greatest key first, the explanation shows the filter that stands last, and the service
executes the other one. -/
theorem explained_twoTitles :
    let query := "filter[title][gt]=x&filter[title]=y"
    let app : App := ⟨"", .all, ⟨2024, 5, 17, by decide⟩⟩
    let request : Request := ⟨"GET", "/library/books?" ++ query, [], ""⟩
    let run := (app.list "books".toList request).run (Script.backend (.ofSeconds 5)) oneRow
    explainedStatements "books" query none =
        [⟨.query, "SELECT COUNT(*) AS total FROM library_api_books WHERE title = $1", [.text "y"]⟩,
          ⟨.query, "SELECT * FROM library_api_books WHERE title = $1 " ++
            "ORDER BY book_id OFFSET $2 ROWS FETCH NEXT $3 ROWS ONLY",
            [.text "y", .int 0, .int 25]⟩] ∧
      run.statements =
        [⟨.query, "SELECT COUNT(*) AS total FROM library_api_books WHERE title > $1", [.text "x"]⟩,
          ⟨.query, "SELECT * FROM library_api_books WHERE title > $1 " ++
            "ORDER BY book_id OFFSET $2 ROWS FETCH NEXT $3 ROWS ONLY",
            [.text "x", .int 0, .int 25]⟩] := by
  decide +kernel

end App

end Http

end Circulation
