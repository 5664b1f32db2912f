/-
**What a store says about its failures never gets out.**

An error of the store has a code, may name a constraint, and says something about itself.  The code
decides what an error means and the constraint which parent is missing; what the error says may show
how the store is built, and no client learns of it.  So whoever changes nothing but what errors say
changes no response, and neither what is executed.

Main definitions:

* `StoreError.SameButWords`, `Script.SameButWords` — errors and scripts that differ in what errors
  say;
* `Http.SameToClients` — answers that no client can tell apart;
* `Session.Discreet` — sessions that tell nothing of what errors say;
* `Http.App.serve` — requests that are answered one after the other.

Main results:

* `Operation.discreet` — the four operations are discreet;
* `Http.App.matches_respond` — **so is every response**;
* `Http.App.serve_sameButWords` — the responses to requests in a row do not depend on what errors
  say.
-/

import Circulation.Http.Router
import Circulation.Proofs.Store.Course
import Circulation.Proofs.Store.Lockstep
import Mathlib.Data.List.Forall2

set_option relaxedAutoImplicit false
set_option autoImplicit false

namespace Circulation

/-! ### Errors and scripts that differ in words -/

/-- Two errors that differ in nothing but what they say. -/
def StoreError.SameButWords (e e' : StoreError) : Prop :=
  e.code = e'.code ∧ e.constraint = e'.constraint

theorem StoreError.sameButWords_self (e : StoreError) : e.SameButWords e := ⟨rfl, rfl⟩

/-- Two attempts that take the same time and differ in nothing but what their errors say. -/
def Attempt.SameButWords {α : Type} (a a' : Attempt α) : Prop :=
  a.delay = a'.delay ∧ SameUpTo StoreError.SameButWords a.result a'.result

/-- Two scripts with the same entries but for what the errors in them say. -/
structure Script.SameButWords (script script' : Script) : Prop where
  acquire : List.Forall₂ (SameUpTo StoreError.SameButWords) script.acquire script'.acquire
  replies : List.Forall₂ Attempt.SameButWords script.replies script'.replies
  commit : List.Forall₂ Attempt.SameButWords script.commit script'.commit
  rollback : List.Forall₂ Attempt.SameButWords script.rollback script'.rollback

namespace Attempt

variable {α : Type} {a a' : Attempt α}

theorem sameButWords_now (x : α) : (now x).SameButWords (now x) := ⟨rfl, SameUpTo.ok x⟩

/-- Both come in time or neither does, and an error that tells so is the same for both. -/
theorem SameButWords.within (h : a.SameButWords a') (what : String) (limit : Duration) :
    SameUpTo StoreError.SameButWords (a.within what limit) (a'.within what limit) := by
  obtain ⟨hdelay, hresult⟩ := h
  cases harrives : a.delay.arrives limit with
  | true =>
      rw [within_eq_of_arrives harrives, within_eq_of_arrives (hdelay ▸ harrives)]
      exact hresult
  | false =>
      rw [within_eq_timedOut harrives, within_eq_timedOut (hdelay ▸ harrives)]
      exact SameUpTo.refl StoreError.sameButWords_self _

end Attempt

section Queues

variable {α : Type} {R : α → α → Prop} {l l' : List α}

/-- The next entries of two queues are related if all entries are. -/
theorem rel_head?_getD (h : List.Forall₂ R l l') {d : α} (hd : R d d) :
    R (l.head?.getD d) (l'.head?.getD d) := by
  cases h with
  | nil => exact hd
  | cons h hs => exact h

theorem forall₂_tail (h : List.Forall₂ R l l') : List.Forall₂ R l.tail l'.tail := by
  cases h with
  | nil => exact .nil
  | cons h hs => exact hs

end Queues

/-- Scripts that differ in what errors say go in lockstep. -/
theorem Script.lockstep_sameButWords (limit : Duration) :
    (Script.backend limit).Lockstep StoreError.SameButWords (Script.backend limit)
      SameButWords where
  acquire h :=
    ⟨rel_head?_getD h.acquire (SameUpTo.ok ()),
      { h with acquire := forall₂_tail h.acquire }⟩
  execute _ _ _ h :=
    ⟨(rel_head?_getD h.replies (Attempt.sameButWords_now _)).within "statement" limit,
      { h with replies := forall₂_tail h.replies }⟩
  commit h :=
    ⟨(rel_head?_getD h.commit (Attempt.sameButWords_now ())).within "commit" limit,
      { h with commit := forall₂_tail h.commit }⟩
  rollback h := { h with rollback := forall₂_tail h.rollback }

/-! ### Answers that no client can tell apart -/

namespace Http

/-- Two answers that no client can tell apart: one success, or failures that are one problem. -/
inductive SameToClients {α : Type} : Answer α → Answer α → Prop
  | ok (a : α) : SameToClients (.ok a) (.ok a)
  | error {f f' : Failure} (h : Problem.ofFailure f = Problem.ofFailure f') :
      SameToClients (.error f) (.error f')

namespace SameToClients

variable {α : Type} {a a' : Answer α}

theorem refl (a : Answer α) : SameToClients a a := by
  cases a with
  | ok a => exact ok a
  | error f => exact error rfl

theorem answered (h : SameToClients a a') (encode : α → Response) :
    Http.answered encode a = Http.answered encode a' := by
  cases h with
  | ok a => rfl
  | error h => exact congrArg Problem.response h

/-- What an error of the store says is kept from clients. -/
theorem ofStore (s : Schema) {e e' : StoreError} (h : e.SameButWords e') :
    SameToClients (.error (.ofStore s e) : Answer α) (.error (.ofStore s e')) := by
  obtain ⟨hcode, hconstraint⟩ := h
  refine error ?_
  unfold Failure.ofStore StoreError.isOrphan
  rw [hcode, hconstraint]
  split
  · rfl
  · rfl

/-- Reading back tells apart nothing that clients cannot tell apart. -/
theorem rereadAnswer (s : Schema) (id : String) {a a' : Answer (Option Record)}
    (h : SameToClients a a') :
    SameToClients (Circulation.rereadAnswer s id a) (Circulation.rereadAnswer s id a') := by
  cases h with
  | ok a => exact refl _
  | error h => exact error h

end SameToClients

end Http

/-! ### Discreet sessions -/

namespace Session

variable {α : Type} {s : Schema}

/-- A session that goes on in the same way whatever errors say, and whose answers no client can tell
apart then. -/
def Discreet {held : Bool} (session : Session (Answer α) held) : Prop :=
  Matches StoreError.SameButWords Http.SameToClients session session

theorem discreet_done (a : Answer α) : (done a).Discreet := Matches.done (.refl a)

theorem discreet_refuse (why : Refusal) : (refuse why : Session (Answer α) false).Discreet :=
  discreet_done _

theorem discreet_abandon (f : Failure) : (abandon f : Session (Answer α) true).Discreet :=
  Matches.rollback (Matches.done (.refl _))

/-- Whoever gets no connection is told of a failure of the store, and of nothing else. -/
theorem Discreet.opening {next : Session (Answer α) true} (h : next.Discreet) :
    (opening next).Discreet :=
  Matches.acquire (fun _ => Matches.done (.error rfl)) h

theorem Discreet.query {st : Statement} {next : Outcome → Session (Answer α) true}
    (h : ∀ out, (next out).Discreet) : (query s st next).Discreet := by
  refine Matches.execute st fun hr => ?_
  cases hr with
  | ok out => exact h out
  | error he => exact Matches.rollback (Matches.done (.ofStore s he))

theorem Discreet.conclude {next : Session (Answer α) false} (h : next.Discreet) :
    (conclude s next).Discreet := by
  refine Matches.commit fun hr => ?_
  cases hr with
  | ok u => exact h
  | error he => exact Matches.done (.ofStore s he)

theorem Discreet.single {st : Statement} {next : Option Record → Session (Answer α) true}
    (h : ∀ row, (next row).Discreet) : (single s st next).Discreet := by
  refine Discreet.query fun out => ?_
  match out.rows with
  | [] => exact h none
  | [row] => exact h (some row)
  | _ :: _ :: _ => exact discreet_abandon _

end Session

/-! ### The operations -/

namespace Repository

open Session

variable (r : Repository)

theorem discreet_get (id : String) : (r.get id).Discreet := by
  unfold get
  split
  · exact discreet_refuse _
  · exact .opening (.single fun row => .conclude (discreet_done _))

theorem discreet_list (q : Query) : (r.list q).Discreet := by
  unfold list
  split
  · exact discreet_refuse _
  · refine .opening (.query fun counted => ?_)
    split
    · exact discreet_abandon _
    · exact .query fun found => .conclude (discreet_done _)

theorem discreet_create (attributes : Record) : (r.create attributes).Discreet := by
  unfold create
  split
  · exact discreet_refuse _
  · refine .opening (.query fun out => ?_)
    split
    · exact .conclude (discreet_done _)
    · exact discreet_abandon _

theorem discreet_reread (id : String) : (r.reread id).Discreet := by
  rw [reread_eq_map]
  exact (r.discreet_get id).map (.rereadAnswer r.schema id)

theorem discreet_update (id : String) (attributes : Record) :
    (r.update id attributes).Discreet := by
  unfold update
  split
  · exact discreet_refuse _
  split
  · exact discreet_refuse _
  refine .opening (.single fun row => ?_)
  cases row with
  | none => exact Matches.rollback (discreet_done _)
  | some row =>
      -- a row that cannot be written back is refused for what is in it
      simp only
      split
      · exact discreet_abandon _
      refine .query fun out => ?_
      split
      · exact .conclude (r.discreet_reread id)
      · exact discreet_abandon _

end Repository

/-- **The operations tell nothing of what errors say.** -/
theorem Operation.discreet (r : Repository) (op : Operation) : (op.session r).Discreet := by
  cases op with
  | list q => exact r.discreet_list q
  | get id => exact r.discreet_get id
  | update id attributes => exact r.discreet_update id attributes
  | create attributes => exact r.discreet_create attributes

/-! ### Responses -/

namespace Http.App

open Session

variable (app : App)

theorem matches_checked {α : Type} (found : Except Response α)
    {next : α → Session Response false}
    (h : ∀ a, Matches StoreError.SameButWords Eq (next a) (next a)) :
    Matches StoreError.SameButWords Eq (checked found next) (checked found next) := by
  cases found with
  | ok a => exact h a
  | error response => exact Matches.done rfl

/-- What is told of a discreet session is discreet. -/
theorem matches_answered {α : Type} {session : Session (Answer α) false} (h : session.Discreet)
    (encode : α → Response) :
    Matches StoreError.SameButWords Eq (session.map (answered encode))
      (session.map (answered encode)) :=
  h.map fun ha => ha.answered encode

theorem matches_health : Matches StoreError.SameButWords Eq health health :=
  Matches.acquire (fun _ => Matches.done rfl) (Matches.rollback (Matches.done rfl))

theorem matches_dispatch (route : Route) (r : Request) :
    Matches StoreError.SameButWords Eq (app.dispatch route r) (app.dispatch route r) := by
  have hlist (name : List Char) :
      Matches StoreError.SameButWords Eq (app.list name r) (app.list name r) :=
    matches_checked _ fun name => matches_checked _ fun s =>
      matches_answered (Operation.discreet (app.repository s)
        (.list (.ofPairs (Dict.ofList (Text.formPairs r.query)).toList))) _
  have hget (name id : List Char) :
      Matches StoreError.SameButWords Eq (app.get name id) (app.get name id) :=
    matches_checked _ fun (name, id) => matches_checked _ fun s =>
      matches_answered (Operation.discreet (app.repository s) (.get id)) _
  unfold dispatch
  split
  · exact matches_health
  · exact matches_health
  · exact hlist _
  · exact hlist _
  · exact matches_checked _ fun name => matches_checked _ fun sent => matches_checked _ fun s =>
      matches_answered (Operation.discreet (app.repository s) (.create sent.attributes)) _
  · exact hget _ _
  · exact hget _ _
  · exact matches_checked _ fun (name, id) => matches_checked _ fun sent =>
      matches_checked _ fun s =>
        matches_answered (Operation.discreet (app.repository s) (.update id sent.attributes)) _
  · exact Matches.done rfl
  · exact Matches.done rfl

/-- **Every response is discreet**: whatever errors say, it is the same. -/
theorem matches_respond (r : Request) :
    Matches StoreError.SameButWords Eq (app.respond r) (app.respond r) := by
  unfold respond
  simp only
  split
  · exact Matches.done rfl
  · exact (app.matches_dispatch _ r).map fun h => by rw [h]

/-! ### Requests in a row -/

/-- Requests that are answered one after the other on one store: each with its response and what is
executed for it. -/
def serve {σ : Type} (b : Backend σ) : List Request → σ → List (Response × List Statement)
  | [], _ => []
  | r :: rs, store =>
      let run := (app.respond r).run b store
      (run.answer, run.statements) :: serve b rs run.store

/-- **The responses to requests in a row do not depend on what the errors of the store say**, and
neither does what is executed. -/
theorem serve_sameButWords (limit : Duration) {script script' : Script}
    (h : script.SameButWords script') (requests : List Request) :
    app.serve (Script.backend limit) requests script =
      app.serve (Script.backend limit) requests script' := by
  induction requests generalizing script script' with
  | nil => rfl
  | cons r rs ih =>
      have hrun := (app.matches_respond r).run (Script.lockstep_sameButWords limit) h
      simp only [serve]
      rw [hrun.answer, hrun.statements, ih hrun.store]

/-- A store that refuses a connection, fails in a look-up, and misses the parent of a new row; it
says the same of all of it. -/
def troubled (message : String) : Script :=
  ⟨[.error ⟨message, some "57P03", none⟩],
    [⟨.millis 2, .error ⟨message, none, none⟩⟩,
      ⟨.millis 0, .error ⟨message, some "23503", some "library_api_borrows_book_id_fkey"⟩⟩],
    [], [⟨.millis 0, .error ⟨message, none, none⟩⟩]⟩

theorem sameButWords_troubled (message message' : String) :
    (troubled message).SameButWords (troubled message') where
  acquire := .cons (.error ⟨rfl, rfl⟩) .nil
  replies := .cons ⟨rfl, .error ⟨rfl, rfl⟩⟩ (.cons ⟨rfl, .error ⟨rfl, rfl⟩⟩ .nil)
  commit := .nil
  rollback := .cons ⟨rfl, .error ⟨rfl, rfl⟩⟩ .nil

/-- A look at the health of the service, a book and a new borrow: all of them fail, each with a
status of its own, and no client learns what the store has said. -/
theorem serve_sameButWords_troubled :
    let app : App := ⟨"", .all, ⟨2024, 5, 17, by decide⟩⟩
    let b := Script.backend (.ofSeconds 5)
    let requests : List Request := [⟨"GET", "/health", [], ""⟩, ⟨"GET", "/library/books/7", [], ""⟩,
      ⟨"POST", "/library/borrows", [("content-type", "application/json")],
        "\x7b\"data\":\x7b\"attributes\":\x7b\"bookId\":7,\"memberId\":1," ++
          "\"dueDate\":\"2024-06-01\"\x7d\x7d\x7d"⟩]
    (troubled "disk full").SameButWords (troubled "password of admin expired") ∧
      (app.serve b requests (troubled "disk full")).map (fun x => (x.1.status, x.2.length)) =
        [(503, 0), (500, 1), (409, 1)] ∧
      app.serve b requests (troubled "disk full") =
        app.serve b requests (troubled "password of admin expired") := by
  intro app b requests
  have hsame := sameButWords_troubled "disk full" "password of admin expired"
  exact ⟨hsame, by decide +kernel, app.serve_sameButWords (.ofSeconds 5) hsame requests⟩

end Http.App

end Circulation
