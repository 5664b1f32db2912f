/-
**The statements of a request.**

A request is an operation on a resource, whose statements are executed, or an explanation, whose
statements are only shown.  How far an operation gets is up to the store; but what it executes on
the way is always the beginning of one list, and the list follows from the request and from the row
that the store holds.

Main definitions:

* `Request`, `Request.statements` — requests, and what they execute or show;
* `Script.reply` — what a script answers to the statement with a number.

Main results:

* `GetCourse.statements`, `ListCourse.statements`, `CreateCourse.statements`,
  `UpdateCourse.statements` — the lists;
* `replies_log` — on a script the answers come in the order of the script, whatever is executed.
-/

import Circulation.Command.Explain
import Circulation.Proofs.Schema.Typing
import Circulation.Proofs.Store.Course
import Circulation.Proofs.Store.Following

set_option relaxedAutoImplicit false
set_option autoImplicit false

namespace Circulation

/-! ### Requests -/

/-- A request: an operation on a resource, or the explanation of one. -/
inductive Request where
  | operation (r : Repository) (op : Operation)
  | explanation (collection query : String) (id : Option String)

/-- The statements that an explanation shows; a request at fault has none. -/
def explainedStatements (collection query : String) (id : Option String) : List Statement :=
  match explain collection query id with
  | .ok e => e.labelled.map Prod.snd
  | .error _ => []

/-- The statements that a request executes on a store, or shows. -/
def Request.statements {σ : Type} (b : Backend σ) (store : σ) : Request → List Statement
  | operation r op => ((op.session r).run b store).statements
  | explanation collection query id => explainedStatements collection query id

/-! ### Explanations -/

/-- What an explanation of a page shows. -/
theorem explainedStatements_none (collection query : String) :
    explainedStatements collection query none = [] ∨
      ∃ s pairs count select, Schema.ofCollection? collection = some s ∧
        Text.formPairs? (query.toList.dropWhile (· == '?')) = .ok pairs ∧
        s.plan (.ofPairs pairs) = .ok (count, select) ∧
        explainedStatements collection query none = [count, select] := by
  unfold explainedStatements explain
  cases hs : Schema.ofCollection? collection with
  | none => exact Or.inl rfl
  | some s =>
      cases hq : Text.formPairs? (query.toList.dropWhile (· == '?')) with
      | error raw =>
          refine Or.inl ?_
          simp only [queryOf?, hq]
          rfl
      | ok pairs =>
          rcases hp : s.plan (.ofPairs pairs) with why | ⟨count, select⟩
          · refine Or.inl ?_
            simp only [queryOf?, hq, bind, Except.bind, hp]
            rfl
          · refine Or.inr ⟨s, pairs, count, select, rfl, rfl, hp, ?_⟩
            simp only [queryOf?, hq, bind, Except.bind, hp]
            rfl

/-- What an explanation of a row shows. -/
theorem explainedStatements_some (collection query id : String) :
    explainedStatements collection query (some id) = [] ∨
      ∃ s select, Schema.ofCollection? collection = some s ∧ s.lookup id = .ok select ∧
        explainedStatements collection query (some id) = [select] := by
  unfold explainedStatements explain
  cases hs : Schema.ofCollection? collection with
  | none => exact Or.inl rfl
  | some s =>
      rcases hl : s.lookup id with why | select
      · refine Or.inl ?_
        simp only [hl]
        rfl
      · refine Or.inr ⟨s, select, rfl, hl, ?_⟩
        simp only [hl]
        rfl

/-! ### The statements of courses -/

/-- A look-up executes one statement, or none. -/
theorem GetCourse.statements {s : Schema} {id : String} {log : List Exchange}
    {a : Answer (Option Record)} (h : GetCourse s id log a) :
    statementsOf log = [] ∨ ∃ select, s.lookup id = .ok select ∧ statementsOf log = [select] := by
  cases h with
  | refused h => exact Or.inl rfl
  | unavailable h e => exact Or.inl rfl
  | failed h e r => exact Or.inr ⟨_, h, rfl⟩
  | several h rows r => exact Or.inr ⟨_, h, rfl⟩
  | uncommitted h rows e => exact Or.inr ⟨_, h, rfl⟩
  | answered h rows => exact Or.inr ⟨_, h, rfl⟩

/-- A list executes a count and then a page, or the beginning of that. -/
theorem ListCourse.statements {s : Schema} {q : Query} {log : List Exchange}
    {a : Answer (PageOf Record)} (h : ListCourse s q log a) :
    statementsOf log = [] ∨ ∃ count select, s.plan q = .ok (count, select) ∧
      statementsOf log <+: [count, select] := by
  cases h with
  | refused h => exact Or.inl rfl
  | unavailable h e => exact Or.inl rfl
  | countFailed h e r => exact Or.inr ⟨_, _, h, List.prefix_append [_] [_]⟩
  | uncounted h total r => exact Or.inr ⟨_, _, h, List.prefix_append [_] [_]⟩
  | failed h total e r => exact Or.inr ⟨_, _, h, List.prefix_rfl⟩
  | uncommitted h total found e => exact Or.inr ⟨_, _, h, List.prefix_rfl⟩
  | answered h total found => exact Or.inr ⟨_, _, h, List.prefix_rfl⟩

/-- A creation executes one statement, or none. -/
theorem CreateCourse.statements {r : Repository} {attributes : Record} {log : List Exchange}
    {a : Answer Record} (h : CreateCourse r attributes log a) :
    statementsOf log = [] ∨ ∃ insert, r.schema.creation r.today attributes = .ok insert ∧
      statementsOf log = [insert] := by
  cases h with
  | refused h => exact Or.inl rfl
  | unavailable h e => exact Or.inl rfl
  | failed h e x => exact Or.inr ⟨_, h, rfl⟩
  | miscounted h rows x => exact Or.inr ⟨_, h, rfl⟩
  | uncommitted h rows e => exact Or.inr ⟨_, h, rfl⟩
  | answered h rows => exact Or.inr ⟨_, h, rfl⟩

/-- What the store answers to a statement. -/
def Exchange.reply? : Exchange → Option (Except StoreError Outcome)
  | execute _ answer => some answer
  | _ => none

/-- The answers of a log to its statements, in order. -/
def repliesOf (log : List Exchange) : List (Except StoreError Outcome) :=
  log.filterMap Exchange.reply?

/-- An update executes a look-up; if there is one row, it goes on with the statement that writes
this row back and looks up again. -/
theorem UpdateCourse.statements {s : Schema} {id : String} {attributes : Record}
    {log : List Exchange} {a : Answer (Option Record)} (h : UpdateCourse s id attributes log a) :
    statementsOf log = [] ∨ ∃ key changes, s.readId id = .ok key ∧
      s.changes attributes = .ok changes ∧
      (statementsOf log = [selectById s key] ∨
        ∃ found row update, (repliesOf log)[0]? = some (.ok found) ∧ found.rows = [row] ∧
          s.writeBack key row changes = .ok update ∧
          statementsOf log <+: [selectById s key, update, selectById s key]) := by
  cases h with
  | unread h => exact Or.inl rfl
  | refused hkey h => exact Or.inl rfl
  | unavailable hkey h e => exact Or.inl rfl
  | unselected hkey h e x => exact Or.inr ⟨_, _, hkey, h, Or.inl rfl⟩
  | several hkey h rows x => exact Or.inr ⟨_, _, hkey, h, Or.inl rfl⟩
  | absent hkey h rows x => exact Or.inr ⟨_, _, hkey, h, Or.inl rfl⟩
  | unwritten hkey h rows hwhy x => exact Or.inr ⟨_, _, hkey, h, Or.inl rfl⟩
  | failed hkey h rows hupdate e x =>
      exact Or.inr ⟨_, _, hkey, h, Or.inr ⟨_, _, _, rfl, rows, hupdate,
        List.prefix_append [_, _] [_]⟩⟩
  | miscounted hkey h rows hupdate affected x =>
      exact Or.inr ⟨_, _, hkey, h, Or.inr ⟨_, _, _, rfl, rows, hupdate,
        List.prefix_append [_, _] [_]⟩⟩
  | uncommitted hkey h rows hupdate affected e =>
      exact Or.inr ⟨_, _, hkey, h, Or.inr ⟨_, _, _, rfl, rows, hupdate,
        List.prefix_append [_, _] [_]⟩⟩
  | @committed key hkey changes h found row rows update hupdate out affected rest a again =>
      refine Or.inr ⟨key, changes, hkey, h, Or.inr ⟨found, row, update, rfl, rows, hupdate, ?_⟩⟩
      have hlog : statementsOf (.acquire (.ok ()) :: .execute (selectById s key) (.ok found) ::
          .execute update (.ok out) :: .commit (.ok ()) :: rest) =
            [selectById s key, update] ++ statementsOf rest := rfl
      rw [hlog]
      refine (List.prefix_append_right_inj [selectById s key, update]).2 ?_
      -- the look-up at the end reads the same identifier, so it has the same key
      have hlookup : s.lookup id = .ok (selectById s key) :=
        Schema.lookup_eq_ok_iff.2 ⟨key, hkey, rfl⟩
      obtain hnil | ⟨select, hselect, hrest⟩ := again.statements
      · rw [hnil]
        exact List.nil_prefix
      · rw [hlookup] at hselect
        cases hselect
        exact hrest ▸ List.prefix_rfl

/-! ### Scripts -/

/-- What a script answers to the statement with a number, from 0 on, within a limit. -/
def Script.reply (limit : Duration) (script : Script) (k : Nat) : Except StoreError Outcome :=
  (script.replies[k]?.getD (.now (.ofRows []))).within "statement" limit

/-- A log that follows a script has its replies in their order. -/
theorem Script.Follows.reply {limit : Duration} {script : Script} {log : List Exchange}
    (h : script.Follows limit log) {k : Nat} {answer : Except StoreError Outcome}
    (hk : (repliesOf log)[k]? = some answer) : answer = script.reply limit k := by
  induction h generalizing k with
  | nil script => simp [repliesOf] at hk
  | @cons script x log hx hlog ih =>
      cases x with
      | execute st r =>
          cases k with
          | zero =>
              have hfirst : r = answer := Option.some.inj hk
              rw [← hfirst, hx, Script.reply, Script.nextReply, List.head?_eq_getElem?]
          | succ k =>
              have hreply : (script.next (.execute st r)).reply limit k =
                  script.reply limit (k + 1) := by
                rw [Script.reply, Script.reply, Script.next, List.getElem?_tail]
              exact (ih hk).trans hreply
      -- nothing else takes a reply
      | acquire r => exact ih hk
      | commit r => exact ih hk
      | rollback r => exact ih hk

/-- **On a script the answers come in the order of the script**, whatever is executed. -/
theorem Session.replies_log {α : Type} {held : Bool} (limit : Duration) (s : Session α held)
    (script : Script) {k : Nat} {answer : Except StoreError Outcome}
    (h : (repliesOf (s.log (Script.backend limit) script))[k]? = some answer) :
    answer = script.reply limit k :=
  (s.follows_log limit script).reply h

end Circulation
