/-
**The links of a page ask for the page that they name.**

A link repeats the parameters of a request with the number and the size of a page put in.  Whatever
characters the parameters are made of, who follows the link asks for the same rows and for that
page: the text behind the question mark is read back, by the service and by an explanation alike,
the filters in it are the ones that were asked for, and what is counted and read differs from what
was counted and read before in the two numbers of the page alone.

Main definitions:

* `Json.link?`, `PageOf.numberOf?` — a link of a document, and the number of the page it leads to;
* `ReadsAs`, `LeadsTo` — what the text of a query and a whole link stand for;
* `Dict.Turned`, `Query.Turned` — parameters and queries that ask for another page.

Main results:

* `Service.link?_page` — which links a document has;
* `readsAs_queryText` — **the text of a query is read back**, whatever is in it;
* `Query.turned_ofPairs` — parameters with another page make a query for another page;
* `Service.links_followed` — **each link leads to the parameters it was made from, and to its
  page**.
-/

import Circulation.Command.Explain
import Circulation.Document
import Circulation.Proofs.Filter.Query
import Circulation.Proofs.Page
import Circulation.Proofs.Request.Explained
import Circulation.Proofs.Text.Form

set_option relaxedAutoImplicit false
set_option autoImplicit false

namespace Circulation

/-! ### Links of a document -/

namespace Json

/-- The value of a field. -/
def field? (v : Json) (name : String) : Option Json := v.fields?.bind fun fields => fields.get? name

/-- The text that a value is. -/
def text? : Json → Option String
  | .str s => some s
  | _ => none

/-- The link of a document under a name. -/
def link? (document : Json) (name : String) : Option String :=
  ((document.field? "links").bind fun links => links.field? name).bind text?

/-- Of several fields with one name the last counts. -/
theorem field?_object (fields : List (String × Json)) (name : String) :
    (object fields).field? name = Dict.find? name fields.reverse := by
  rw [field?, object, ofDict, fields?, Dict.ofList_toList, Option.bind_some, Dict.get?_ofList]

end Json

/-- The number of the page that a link with a name leads to, if a document has such a link. -/
def PageOf.numberOf? {α : Type} (p : PageOf α) (name : String) : Option UInt32 :=
  if name = "first" then some 1
  else if name = "last" then some p.totalPages
  else if name = "prev" then if p.hasPrevious then some (p.page.number - 1) else none
  else if name = "next" then if p.hasNext then some (p.page.number + 1) else none
  else none

/-- The links that a document has. -/
theorem Service.link?_page (s : Service) (p : PageOf Record) (params : Dict String)
    (name : String) :
    (s.page p params).link? name =
      if name = "self" then some (withQuery s.collectionUrl params)
      else (p.numberOf? name).map fun number => s.pageLink params number p.page.size := by
  have hlinks : (s.page p params).field? "links" = some (.object (s.links p params)) := by
    rw [page, Json.field?_object]
    rfl
  rw [Json.link?, hlinks, Option.bind_some, Json.field?_object]
  -- the names of the links are five different ones
  have hfind : Dict.find? name (s.links p params).reverse =
      if name = "self" then some (.str (withQuery s.collectionUrl params))
      else (p.numberOf? name).map fun number => .str (s.pageLink params number p.page.size) := by
    unfold links PageOf.numberOf?
    cases p.hasPrevious <;> cases p.hasNext <;> simp [Dict.find?, eq_comm] <;> grind
  rw [hfind]
  split
  · rfl
  · cases p.numberOf? name <;> rfl

/-! ### What the text of a query stands for -/

/-- A text that explanations and the service both read as the pairs. -/
structure ReadsAs (text : String) (pairs : List (String × String)) : Prop where
  explained : Text.formPairs? (text.toList.dropWhile (· == '?')) = .ok pairs
  served : Text.formPairs text.toList = pairs

/-- A link that leads to an address with pairs. -/
inductive LeadsTo (url : String) : List (String × String) → String → Prop where
  | bare : LeadsTo url [] url
  | query {pairs : List (String × String)} {text : String} (hne : pairs ≠ [])
      (h : ReadsAs text pairs) : LeadsTo url pairs (url ++ "?" ++ text)

theorem toList_queryText (params : Dict String) :
    (queryText params).toList = Text.formOf params.toList := by
  have hpiece : String.toList ∘ queryPair = Text.pieceOf := by
    funext p
    simp [queryPair, Text.percentEncode, Text.pieceOf]
  rw [queryText, Text.toList_joinWith, List.map_map, hpiece]
  rfl

/-- **The text of a query is read back**, whatever its names and values are. -/
theorem readsAs_queryText (params : Dict String) : ReadsAs (queryText params) params.toList where
  explained := by rw [toList_queryText, Text.dropWhile_formOf, Text.formPairs?_formOf]
  served := by rw [toList_queryText, Text.formPairs_formOf]

example : queryText (.ofList [("filter[title]", "a&b=c+d é"), ("sort", "")]) =
    "filter%5Btitle%5D=a%26b%3Dc%2Bd%20%C3%A9&sort=" := by
  decide

theorem leadsTo_withQuery (url : String) (params : Dict String) :
    LeadsTo url params.toList (withQuery url params) := by
  unfold withQuery
  split
  · next h =>
      rw [List.isEmpty_iff.1 h]
      exact .bare
  · next h =>
      exact .query (fun hnil => h (List.isEmpty_iff.2 hnil)) (readsAs_queryText params)

/-- Who reads a text as the entries of a dictionary has that dictionary. -/
theorem ReadsAs.ofList {text : String} {params : Dict String} (h : ReadsAs text params.toList) :
    Dict.ofList (Text.formPairs text.toList) = params := by
  rw [h.served, Dict.ofList_toList]

/-! ### Parameters with another page -/

/-- Parameters that differ from others in the page that they ask for. -/
structure Dict.Turned (params : Dict String) (number size : UInt32) (turned : Dict String) :
    Prop where
  number : turned.get? Page.numberKey = some number.toNat.repr
  size : turned.get? Page.sizeKey = some size.toNat.repr
  others : ∀ key, key ≠ Page.numberKey → key ≠ Page.sizeKey → turned.get? key = params.get? key

theorem turned_withPage (params : Dict String) (number size : UInt32) :
    params.Turned number size (withPage params number size) where
  number := by
    have hne : Page.sizeKey ≠ Page.numberKey := by decide
    rw [withPage, Dict.get?_insert, if_neg hne, Dict.get?_insert, if_pos rfl]
  size := by rw [withPage, Dict.get?_insert, if_pos rfl]
  others key hnumber hsize := by
    rw [withPage, Dict.get?_insert, if_neg (Ne.symm hsize), Dict.get?_insert,
      if_neg (Ne.symm hnumber)]

/-- A link to a page always has a query. -/
theorem Service.pageLink_eq (s : Service) (params : Dict String) (number size : UInt32) :
    s.pageLink params number size =
      s.collectionUrl ++ "?" ++ queryText (withPage params number size) := by
  have hsize := (turned_withPage params number size).size
  have hne : (withPage params number size).isEmpty = false := by
    rw [Bool.eq_false_iff]
    intro hempty
    rw [Dict.get?, List.isEmpty_iff.1 hempty] at hsize
    cases hsize
  rw [pageLink, withQuery, hne]
  rfl

namespace Query

variable {params turned : Dict String} {number : UInt32} {p : Page}

/-- The keys of a page ask for no filter. -/
theorem filterTarget?_page : filterTarget? Page.numberKey = none ∧
    filterTarget? Page.sizeKey = none := by
  decide

/-- Another page changes no filter. -/
theorem filters_turned {size : UInt32} (h : params.Turned number size turned) :
    (ofPairs turned.toList).filters = (ofPairs params.toList).filters := by
  refine filters_ofPairs_congr fun key hkey => h.others key ?_ ?_
  · rintro rfl
    rw [filterTarget?_page.1] at hkey
    cases hkey
  · rintro rfl
    rw [filterTarget?_page.2] at hkey
    cases hkey

/-- **Parameters with another page ask for that page.** -/
theorem page_turned (hnumber : 1 ≤ number) (h : params.Turned number p.size turned) :
    (ofPairs turned.toList).page = .clamped number p.size := by
  refine Page.ofParams_eq hnumber p ?_ ?_
  · rw [get?_params_ofPairs turned (by decide)]
    exact h.number
  · rw [get?_params_ofPairs turned (by decide)]
    exact h.size

end Query

/-! ### What another page executes -/

/-- The numbers of a page as a statement carries them. -/
def Page.values (p : Page) : List Param :=
  [.int p.offset.toInt64, .int (Int64.ofNat p.limit.toNat)]

/-- Two plans that differ in the page alone: both are refused for one reason, or both count by one
statement and read rows by one text, with the same values but for the two numbers of the page. -/
inductive SamePlan (page page' : Page) :
    Except Refusal (Statement × Statement) → Except Refusal (Statement × Statement) → Prop where
  | refused (why : Refusal) : SamePlan page page' (.error why) (.error why)
  | planned (count : Statement) (sql : String) (values : List Param) :
      SamePlan page page' (.ok (count, ⟨.query, sql, values ++ page.values⟩))
        (.ok (count, ⟨.query, sql, values ++ page'.values⟩))

/-- Queries with the same filters have plans that differ in the page alone. -/
theorem Schema.samePlan (s : Schema) {q q' : Query} (h : q'.filters = q.filters) :
    SamePlan q.page q'.page (s.plan q) (s.plan q') := by
  have hbind : s.bindQuery q' = s.bindQuery q := by rw [bindQuery, bindQuery, h]
  rw [plan, plan, hbind]
  cases s.bindQuery q with
  | error why => exact .refused why
  | ok bound => exact .planned _ _ _

/-- **A list executes its plan from the beginning on**, and all of it if it has an answer. -/
theorem Repository.statements_list {σ : Type} (r : Repository) (q : Query) (b : Backend σ)
    (store : σ) {count select : Statement} (hplan : r.schema.plan q = .ok (count, select)) :
    ((r.list q).run b store).statements <+: [count, select] ∧
      (((r.list q).run b store).answer.isOk = true →
        ((r.list q).run b store).statements = [count, select]) := by
  have hcourse : ListCourse r.schema q _ ((r.list q).run b store).answer :=
    ListCourse.of_path (Session.path_run b (r.list q) store)
  rw [Session.statements_run]
  exact hcourse.statements_of_plan hplan

/-! ### Following a link -/

/-- A query that asks for another page of what a query asks for: with the same filters, and with a
plan that differs in the page alone and that a list executes. -/
structure Query.Turned (s : Schema) (q : Query) (page : Page) (turned : Query) : Prop where
  filters : turned.filters = q.filters
  asks : turned.page = page
  plans : SamePlan q.page page (s.plan q) (s.plan turned)
  executed : ∀ (count select : Statement), s.plan turned = .ok (count, select) →
    ∀ (today : Date) {σ : Type} (b : Backend σ) (store : σ),
      ((Repository.list ⟨s, today⟩ turned).run b store).statements <+: [count, select] ∧
        (((Repository.list ⟨s, today⟩ turned).run b store).answer.isOk = true →
          ((Repository.list ⟨s, today⟩ turned).run b store).statements = [count, select])

/-- **Parameters with another page make a query for another page.** -/
theorem Query.turned_ofPairs (s : Schema) {params turned : Dict String} {number : UInt32} {p : Page}
    (hnumber : 1 ≤ number) (h : params.Turned number p.size turned) :
    Query.Turned s (ofPairs params.toList) (.clamped number p.size) (ofPairs turned.toList) where
  filters := filters_turned h
  asks := page_turned hnumber h
  plans := page_turned hnumber h ▸ s.samePlan (filters_turned h)
  executed _ _ hplan today _ b store :=
    Repository.statements_list ⟨s, today⟩ (ofPairs turned.toList) b store hplan

namespace PageOf

variable {α : Type} {p : PageOf α} {number : UInt32}

theorem numberOf?_prev : p.numberOf? "prev" =
    if p.hasPrevious then some (p.page.number - 1) else none := rfl

theorem numberOf?_next : p.numberOf? "next" =
    if p.hasNext then some (p.page.number + 1) else none := rfl

/-- **The page in front ends where the page begins.** -/
theorem offset_prev (h : p.numberOf? "prev" = some number) :
    (Page.clamped number p.page.size).offset.toNat + p.page.limit.toNat = p.page.offset.toNat := by
  rw [numberOf?_prev] at h
  split at h
  · next hprevious =>
      obtain rfl := Option.some.inj h
      have hone := one_le_previous hprevious
      have hpos := UInt32.le_iff_toNat_le.1 hone
      have hnat := p.toNat_previous
      rw [Page.toNat_offset, Page.toNat_offset, Page.number_clamped hone, Page.size_clamped,
        Page.limit, ← Nat.succ_mul]
      congr 1
      change 1 ≤ (p.page.number - 1).toNat at hpos
      omega
  · cases h

/-- **The page behind begins where the page ends.** -/
theorem offset_next (h : p.numberOf? "next" = some number) :
    (Page.clamped number p.page.size).offset.toNat = p.page.offset.toNat + p.page.limit.toNat := by
  rw [numberOf?_next] at h
  split at h
  · next hnext =>
      obtain rfl := Option.some.inj h
      have hnat := toNat_next hnext
      have hpos := p.page.one_le_toNat_number
      rw [Page.toNat_offset, Page.toNat_offset, Page.number_clamped (one_le_next hnext),
        Page.size_clamped, Page.limit, ← Nat.succ_mul]
      congr 1
      omega
  · cases h

end PageOf

/-- **Each link of a page leads to the parameters that it was made from.**  The link to the page
itself carries the parameters of the request as they are.  Every other link is one to a page, and
carries the parameters with that page.  Explanations and the service read the parameters from it in
the order of their keys, and both make a query of them that asks for the same rows and for the page
that the link names; behind and in front of the page of the document the rows join on. -/
theorem Service.links_followed (s : Service) (p : PageOf Record) (params : Dict String) :
    (∃ link, (s.page p params).link? "self" = some link ∧
      LeadsTo s.collectionUrl params.toList link) ∧
    (∀ name, name ≠ "self" → p.numberOf? name = none → (s.page p params).link? name = none) ∧
    ∀ name number, p.numberOf? name = some number →
      ∃ (turned : Dict String) (text : String), params.Turned number p.page.size turned ∧
        (s.page p params).link? name = some (s.collectionUrl ++ "?" ++ text) ∧
        ReadsAs text turned.toList ∧
        (1 ≤ number → ∃ q : Query, queryOf? text = .ok q ∧
          Query.ofPairs (Dict.ofList (Text.formPairs text.toList)).toList = q ∧
          Query.Turned s.schema (.ofPairs params.toList) (.clamped number p.page.size) q ∧
          q.page.number = number ∧ q.page.size = p.page.size ∧
          (name = "prev" → q.page.offset.toNat + p.page.limit.toNat = p.page.offset.toNat) ∧
          (name = "next" → q.page.offset.toNat = p.page.offset.toNat + p.page.limit.toNat)) := by
  refine ⟨⟨_, s.link?_page p params "self", leadsTo_withQuery s.collectionUrl params⟩, ?_, ?_⟩
  · intro name hself hnone
    rw [s.link?_page, if_neg hself, hnone, Option.map_none]
  · intro name number hname
    have hself : name ≠ "self" := by
      rintro rfl
      cases hname
    have hturned := turned_withPage params number p.page.size
    have hreads := readsAs_queryText (withPage params number p.page.size)
    refine ⟨_, _, hturned, ?_, hreads, ?_⟩
    · rw [s.link?_page, if_neg hself, hname, Option.map_some, s.pageLink_eq]
    · intro hnumber
      have hquery := Query.turned_ofPairs s.schema hnumber hturned
      refine ⟨_, ?_, ?_, hquery, ?_, ?_, ?_, ?_⟩
      · rw [queryOf?, hreads.explained]
      · rw [hreads.ofList]
      · rw [hquery.asks, Page.number_clamped hnumber]
      · rw [hquery.asks, Page.size_clamped]
      · rintro rfl
        rw [hquery.asks]
        exact PageOf.offset_prev hname
      · rintro rfl
        rw [hquery.asks]
        exact PageOf.offset_next hname

end Circulation
