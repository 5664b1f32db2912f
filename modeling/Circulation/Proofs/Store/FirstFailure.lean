/-
**The first step that fails decides what a request is told.**

A step of an operation asks for a connection, executes a statement, or commits.  The first step that
fails ends the operation: nothing but a rollback follows it, and the request is told of this step
and of no other.  The same holds of a look-up that finds several rows, which contradicts the schema:
the rows are counted for the answer and go nowhere.  A step that takes longer than the limit has
failed as well, and the request is told which one it was.  What a rollback comes to is told to
nobody.

Main definitions:

* `Orphan.Named` — the parent that is missing, by the constraint that a store reports;
* `StoreError.Means`, `Told` — what a request is told of an error, and of a step that fails;
* `Statement.LooksUp` — the statements that look up a row by its key;
* `Verdict` — an answer that is decided by the first step that goes wrong.

Main results:

* `GetCourse.verdict`, `ListCourse.verdict`, `CreateCourse.verdict`, `UpdateCourse.verdict` — the
  answers of all operations are decided in this way;
* `Verdict.told_of_late` — of a step that comes too late the request is told which one it was;
* `Operation.firstFailure_run` — **the first step that fails decides the answer, and no rollback
  changes it**.
-/

import Circulation.Proofs.Schema.Typing
import Circulation.Proofs.Sql.Building
import Circulation.Proofs.Store.Course
import Circulation.Proofs.Store.Following
import Circulation.Proofs.Store.Lockstep

set_option relaxedAutoImplicit false
set_option autoImplicit false

namespace Circulation

/-! ### Missing parents -/

/-- Whether the column of a parent occurs in the name of a constraint. -/
def Parent.OccursIn (p : Parent) (constraint : String) : Prop :=
  p.column.toList <:+: constraint.toList

/-- The parent that is missing: the first one whose column occurs in the constraint that the store
reports, and any of them if there is none. -/
inductive Orphan.Named (s : Schema) (constraint : Option String) : Orphan → Prop
  | first {name : String} (hname : constraint = some name) {front back : List Parent} {p : Parent}
      (hparents : s.parents = front ++ p :: back) (hp : p.OccursIn name)
      (hfront : ∀ q ∈ front, ¬ q.OccursIn name) :
      Named s constraint (.known p.resource p.wireName)
  | any (h : ∀ name ∈ constraint, ∀ p ∈ s.parents, ¬ p.OccursIn name) :
      Named s constraint (.oneOf (s.parents.map Parent.wireName))

theorem Schema.parentOf?_eq_some_iff {s : Schema} {name : String} {p : Parent} :
    s.parentOf? name = some p ↔ p.OccursIn name ∧
      ∃ front back, s.parents = front ++ p :: back ∧ ∀ q ∈ front, ¬ q.OccursIn name := by
  simp [parentOf?, List.find?_eq_some_iff_append, Parent.OccursIn]

theorem Schema.parentOf?_eq_none_iff {s : Schema} {name : String} :
    s.parentOf? name = none ↔ ∀ p ∈ s.parents, ¬ p.OccursIn name := by
  simp [parentOf?, List.find?_eq_none, Parent.OccursIn]

theorem Orphan.named_ofConstraint (s : Schema) (constraint : Option String) :
    (ofConstraint s constraint).Named s constraint := by
  unfold ofConstraint
  cases hfound : constraint.bind s.parentOf? with
  | none =>
      refine Named.any fun name hname => ?_
      rw [Option.mem_def.1 hname, Option.bind_some] at hfound
      exact Schema.parentOf?_eq_none_iff.1 hfound
  | some p =>
      obtain ⟨name, hname, hp⟩ := Option.bind_eq_some_iff.1 hfound
      obtain ⟨hoccurs, front, back, hparents, hfront⟩ := Schema.parentOf?_eq_some_iff.1 hp
      exact Named.first hname hparents hoccurs hfront

/-! ### What is told of a step that fails -/

/-- What an error of the store means for a request on a resource. -/
inductive StoreError.Means (s : Schema) (e : StoreError) : Failure → Prop
  | orphan (code : e.code = some "23503") {o : Orphan} (named : o.Named s e.constraint) :
      Means s e (.integrity o)
  | other (code : e.code ≠ some "23503") {f : Failure} (kind : f.kind = .persistence)
      (words : f.detail = e.message) : Means s e f

theorem StoreError.means_ofStore (s : Schema) (e : StoreError) : e.Means s (.ofStore s e) := by
  unfold Failure.ofStore StoreError.isOrphan
  split
  · next h => exact Means.orphan (beq_iff_eq.1 h) (Orphan.named_ofConstraint s e.constraint)
  · next h => exact Means.other (fun hcode => h (beq_iff_eq.2 hcode)) rfl rfl

/-- What takes too long is a failure of the store that tells the limit. -/
theorem StoreError.Means.timedOut {s : Schema} {what : String} {limit : Duration} {f : Failure}
    (h : (StoreError.timedOut what limit).Means s f) :
    f.kind = .persistence ∧ f.detail = what ++ " timed out after " ++ limit.display := by
  cases h with
  | orphan code named => cases code
  | other code kind words => exact ⟨kind, words⟩

/-- What a request on a resource is told of a step that fails. -/
inductive Told (s : Schema) : Exchange → Failure → Prop
  | unavailable (e : StoreError) {f : Failure} (kind : f.kind = .persistence)
      (words : f.detail = "connection unavailable: " ++ e.message) :
      Told s (.acquire (.error e)) f
  | unexecuted (st : Statement) {e : StoreError} {f : Failure} (h : e.Means s f) :
      Told s (.execute st (.error e)) f
  | uncommitted {e : StoreError} {f : Failure} (h : e.Means s f) : Told s (.commit (.error e)) f

/-- Whether a step has failed.  What a rollback comes to does not count. -/
def Exchange.failed : Exchange → Bool
  | acquire answer => !answer.isOk
  | execute _ answer => !answer.isOk
  | commit answer => !answer.isOk
  | rollback _ => false

/-- Where no step has failed, none is the first to fail. -/
theorem find?_failed_eq_none {log : List Exchange} (h : ∀ x ∈ log, x.failed = false) :
    log.find? Exchange.failed = none := by
  rw [List.find?_eq_none]
  intro x hx
  rw [h x hx]
  exact Bool.false_ne_true

namespace Told

variable {s : Schema} {x : Exchange} {f : Failure}

theorem failed (h : Told s x f) : x.failed = true := by
  cases h <;> rfl

/-- No step that fails is told as rows that contradict the schema. -/
theorem kind_ne_consistency (h : Told s x f) : f.kind ≠ .consistency := by
  have hmeans {e : StoreError} (h : e.Means s f) : f.kind ≠ .consistency := by
    cases h with
    | orphan code named => simp [Failure.kind]
    | other code kind words => simp [kind]
  cases h with
  | unavailable e kind words => simp [kind]
  | unexecuted st h => exact hmeans h
  | uncommitted h => exact hmeans h

/-- Of a step that comes too late a request is told which one it was, and the limit. -/
theorem of_late (h : Told s x f) {limit : Duration} {script : Script} {what : String}
    (hlate : script.Late limit x what) (hx : script.Answers limit x) :
    f.kind = .persistence ∧ f.detail = what ++ " timed out after " ++ limit.display := by
  rcases hlate.eq_timedOut hx with ⟨st, rfl⟩ | rfl
  · cases h with
    | unexecuted st h => exact h.timedOut
  · cases h with
    | uncommitted h => exact h.timedOut

end Told

/-- A step that comes too late has failed. -/
theorem Script.Late.failed {limit : Duration} {script : Script} {x : Exchange} {what : String}
    (h : script.Late limit x what) (hx : script.Answers limit x) : x.failed = true := by
  rcases h.eq_timedOut hx with ⟨st, rfl⟩ | rfl
  · rfl
  · rfl

/-! ### Look-ups among statements -/

/-- Whether a statement looks up a row of a resource by its key. -/
def Statement.LooksUp (s : Schema) (st : Statement) : Prop := ∃ key, st = selectById s key

section LooksUp

variable {s : Schema} {st : Statement}

theorem looksUp_of_lookup {id : String} (h : s.lookup id = .ok st) : st.LooksUp s := by
  obtain ⟨key, -, rfl⟩ := Schema.lookup_eq_ok_iff.1 h
  exact ⟨key, rfl⟩

/-- The text of a look-up, as far as all look-ups have it in common. -/
theorem Statement.LooksUp.take_sql (h : st.LooksUp s) :
    st.sql.toList.take 8 = "SELECT *".toList := by
  obtain ⟨key, rfl⟩ := h
  simp [selectById]

/-- Neither the count nor the page of a list looks up a row. -/
theorem not_looksUp_of_plan {q : Query} {count select : Statement}
    (h : s.plan q = .ok (count, select)) : ¬ count.LooksUp s ∧ ¬ select.LooksUp s := by
  obtain ⟨conds, params, -, -, rfl, rfl⟩ := Schema.plan_eq_ok_iff.1 h
  refine ⟨fun hl => ?_, ?_⟩
  · -- a count begins in another way
    have htake := hl.take_sql
    have hne : "SELECT COUNT(*) AS total FROM " ++ s.table ≠ "" := by simp
    have hsql : (countRows s conds params).sql =
        joinParts ["SELECT COUNT(*) AS total FROM " ++ s.table, whereSql conds] := rfl
    rw [hsql, joinParts_second hne, joinParts_singleton] at htake
    simp at htake
  · -- a page has two parameters at least
    rintro ⟨key, hkey⟩
    have hparams := congrArg (fun st => st.params.length) hkey
    simp [selectPage, selectById] at hparams

theorem not_looksUp_of_creation {today : Date} {attributes : Record}
    (h : s.creation today attributes = .ok st) : ¬ st.LooksUp s := by
  intro hl
  have htake := hl.take_sql
  obtain ⟨changes, values, -, -, -, hinsert⟩ := Schema.creation_eq_ok_iff.1 h
  obtain ⟨-, rfl⟩ := Schema.insertRow_eq_ok_iff.1 hinsert
  simp at htake

/-- What is written back is a command, and a look-up is none. -/
theorem not_looksUp_of_writeBack {key : Param} {row changes : Record}
    (h : s.writeBack key row changes = .ok st) : ¬ st.LooksUp s := by
  rintro ⟨key', hkey'⟩
  obtain ⟨values, -, hupdate⟩ := Schema.writeBack_eq_ok_iff.1 h
  obtain ⟨-, rfl⟩ := Schema.updateById_eq_ok_iff.1 hupdate
  cases congrArg Statement.kind hkey'

end LooksUp

/-! ### Answers that are decided by the first step that goes wrong -/

/-- A step after which an operation can go on: it has not failed, and if it has looked up a row it
has not found several. -/
def Exchange.Smooth (s : Schema) (x : Exchange) : Prop :=
  x.failed = false ∧
    ∀ st out, x = .execute st (.ok out) → st.LooksUp s → out.rows.length ≤ 1

/-- An answer that is decided by the first step that goes wrong, if there is one. -/
inductive Verdict {α : Type} (s : Schema) (log : List Exchange) (a : Answer α) : Prop
  | smooth (h : ∀ x ∈ log, x.Smooth s) (ha : ∀ f, a = .error f → f.kind ≠ .consistency)
  | failed (front back : List Exchange) {x : Exchange} (hlog : log = front ++ x :: back)
      (hfront : ∀ y ∈ front, y.Smooth s) (hback : ∀ y ∈ back, ∃ r, y = .rollback r) {f : Failure}
      (hx : Told s x f) (ha : a = .error f)
  | several (front : List Exchange) {st : Statement} {out : Outcome} {r : Except StoreError Unit}
      (hlog : log = front ++ [.execute st (.ok out), .rollback r])
      (hfront : ∀ y ∈ front, y.Smooth s) (hst : st.LooksUp s) (hrows : 2 ≤ out.rows.length)
      (ha : a = .error (.consistency s.resource out.rows.length))

namespace Exchange

variable {s : Schema}

@[simp] theorem smooth_acquire : (acquire (.ok ())).Smooth s := ⟨rfl, by simp⟩

@[simp] theorem smooth_commit : (commit (.ok ())).Smooth s := ⟨rfl, by simp⟩

@[simp] theorem smooth_rollback (r : Except StoreError Unit) : (rollback r).Smooth s :=
  ⟨rfl, by simp⟩

/-- A statement that succeeds leaves nothing to object to, unless it has found several rows. -/
theorem smooth_execute {st : Statement} {out : Outcome}
    (h : st.LooksUp s → out.rows.length ≤ 1) : (execute st (.ok out)).Smooth s := by
  refine ⟨rfl, fun st' out' hx hst => ?_⟩
  obtain ⟨rfl, hout⟩ := Exchange.execute.inj hx
  obtain rfl := Except.ok.inj hout
  exact h hst

end Exchange

namespace Verdict

variable {α : Type} {s : Schema} {log : List Exchange} {a : Answer α}

/-- Steps that go well decide nothing. -/
theorem prepend (front : List Exchange) (hfront : ∀ x ∈ front, x.Smooth s) (h : Verdict s log a) :
    Verdict s (front ++ log) a := by
  cases h with
  | smooth h ha => exact smooth (List.forall_mem_append.2 ⟨hfront, h⟩) ha
  | failed front' back hlog hfront' hback hx ha =>
      rw [hlog, ← List.append_assoc]
      exact failed (front ++ front') back rfl (List.forall_mem_append.2 ⟨hfront, hfront'⟩) hback hx
        ha
  | several front' hlog hfront' hst hrows ha =>
      rw [hlog, ← List.append_assoc]
      exact several (front ++ front') rfl (List.forall_mem_append.2 ⟨hfront, hfront'⟩) hst hrows ha

/-- **The first step that fails decides the answer.** -/
theorem told_of_failed (h : Verdict s log a) {x : Exchange}
    (hx : log.find? Exchange.failed = some x) : ∃ f, a = .error f ∧ Told s x f := by
  have hnone {l : List Exchange} (hl : ∀ y ∈ l, y.Smooth s) : l.find? Exchange.failed = none :=
    find?_failed_eq_none fun y hy => (hl y hy).1
  cases h with
  | smooth h ha =>
      rw [hnone h] at hx
      cases hx
  | failed front back hlog hfront hback hx' ha =>
      rw [hlog, List.find?_append, hnone hfront, Option.none_or,
        List.find?_cons_of_pos hx'.failed] at hx
      obtain rfl := Option.some.inj hx
      exact ⟨_, ha, hx'⟩
  | several front hlog hfront hst hrows ha =>
      rw [hlog, List.find?_append, hnone hfront] at hx
      cases hx

/-- **If the first step that fails comes too late, the answer tells which one it was**, and the
limit. -/
theorem told_of_late (h : Verdict s log a) {limit : Duration} {script : Script}
    (hfollows : script.Follows limit log) {front back : List Exchange} {x : Exchange}
    {what : String} (hlog : log = front ++ x :: back) (hfront : ∀ y ∈ front, y.failed = false)
    (hlate : (script.behind front).Late limit x what) :
    ∃ f, a = .error f ∧ f.kind = .persistence ∧
      f.detail = what ++ " timed out after " ++ limit.display := by
  rw [hlog] at hfollows
  have hx := hfollows.answers
  have hfirst : log.find? Exchange.failed = some x := by
    rw [hlog, List.find?_append, find?_failed_eq_none hfront, Option.none_or,
      List.find?_cons_of_pos (hlate.failed hx)]
  obtain ⟨f, ha, htold⟩ := h.told_of_failed hfirst
  obtain ⟨hkind, hdetail⟩ := htold.of_late hlate hx
  exact ⟨f, ha, hkind, hdetail⟩

/-- **Where a look-up has found several rows, nothing is executed behind it**, and the answer tells
how many they are. -/
theorem several_of_mem (h : Verdict s log a) {st : Statement} {out : Outcome}
    (hmem : .execute st (.ok out) ∈ log) (hst : st.LooksUp s) (hrows : 2 ≤ out.rows.length) :
    a = .error (.consistency s.resource out.rows.length) ∧
      ∃ front r, log = front ++ [.execute st (.ok out), .rollback r] := by
  have hnot {l : List Exchange} (hl : ∀ y ∈ l, y.Smooth s) : .execute st (.ok out) ∉ l := by
    intro hin
    have hle := (hl _ hin).2 st out rfl hst
    omega
  cases h with
  | smooth h ha => exact absurd hmem (hnot h)
  | failed front back hlog hfront hback hx ha =>
      exfalso
      rw [hlog] at hmem
      rcases List.mem_append.1 hmem with hin | hin
      · exact hnot hfront hin
      rcases List.mem_cons.1 hin with rfl | hin
      · cases hx
      · obtain ⟨r, hr⟩ := hback _ hin
        cases hr
  | @several front st' out' r hlog hfront hst' hrows' ha =>
      have hin := hmem
      rw [hlog] at hin
      rcases List.mem_append.1 hin with hin | hin
      · exact absurd hin (hnot hfront)
      · obtain ⟨rfl, rfl⟩ : st = st' ∧ out = out' := by simpa using hin
        exact ⟨ha, front, r, hlog⟩

/-- Rows that contradict the schema are told of exactly when a look-up has found several. -/
theorem consistency_iff (h : Verdict s log a) :
    (∃ f, a = .error f ∧ f.kind = .consistency) ↔
      ∃ st out, .execute st (.ok out) ∈ log ∧ st.LooksUp s ∧ 2 ≤ out.rows.length := by
  constructor
  · rintro ⟨f, rfl, hkind⟩
    cases h with
    | smooth h ha => exact absurd hkind (ha f rfl)
    | failed front back hlog hfront hback hx ha =>
        obtain rfl := Except.error.inj ha
        exact absurd hkind hx.kind_ne_consistency
    | several front hlog hfront hst hrows ha => exact ⟨_, _, by simp [hlog], hst, hrows⟩
  · rintro ⟨st, out, hmem, hst, hrows⟩
    obtain ⟨ha, -⟩ := h.several_of_mem hmem hst hrows
    exact ⟨_, ha, rfl⟩

end Verdict

/-! ### The verdicts of operations -/

section Courses

open Exchange

variable {s : Schema} {log : List Exchange}

/-- A request that is refused has not got to the store. -/
theorem Verdict.refused {α : Type} (why : Refusal) :
    Verdict s [] (.error (.validation why) : Answer α) := by
  refine Verdict.smooth (by simp) fun f hf => ?_
  obtain rfl := Except.error.inj hf
  simp [Failure.kind]

/-- Whoever gets no connection is told so. -/
theorem Verdict.unavailable {α : Type} (e : StoreError) :
    Verdict s [.acquire (.error e)]
      (.error (.persistence (.unavailable e.message)) : Answer α) :=
  Verdict.failed [] [] rfl (by simp) (by simp) (Told.unavailable e rfl rfl) rfl

/-- Behind a statement that fails there is a rollback, which is told to nobody. -/
theorem Verdict.unexecuted {α : Type} (front : List Exchange) (hfront : ∀ x ∈ front, x.Smooth s)
    (st : Statement) (e : StoreError) (r : Except StoreError Unit) :
    Verdict s (front ++ [.execute st (.error e), .rollback r])
      (.error (.ofStore s e) : Answer α) :=
  Verdict.failed front [.rollback r] rfl hfront (by simp) (Told.unexecuted st (e.means_ofStore s))
    rfl

/-- Behind a commit that fails there is nothing. -/
theorem Verdict.uncommitted {α : Type} (front : List Exchange) (hfront : ∀ x ∈ front, x.Smooth s)
    (e : StoreError) :
    Verdict s (front ++ [.commit (.error e)]) (.error (.ofStore s e) : Answer α) :=
  Verdict.failed front [] rfl hfront (by simp) (Told.uncommitted (e.means_ofStore s)) rfl

/-- **The answer to a look-up is decided by the first step that goes wrong.** -/
theorem GetCourse.verdict {id : String} {a : Answer (Option Record)} (h : GetCourse s id log a) :
    Verdict s log a := by
  cases h with
  | refused h => exact Verdict.refused _
  | unavailable h e => exact Verdict.unavailable e
  | failed h e r =>
      refine Verdict.unexecuted [_] ?_ _ e _
      simp
  | several h rows r =>
      refine Verdict.several [_] rfl ?_ (looksUp_of_lookup h) rows rfl
      simp
  | uncommitted h rows e =>
      refine Verdict.uncommitted [_, _] ?_ e
      simp [smooth_execute, rows]
  | answered h rows =>
      refine Verdict.smooth ?_ (by simp)
      simp [smooth_execute, rows]

/-- **The answer to a list is decided by the first step that goes wrong.** -/
theorem ListCourse.verdict {q : Query} {a : Answer (PageOf Record)} (h : ListCourse s q log a) :
    Verdict s log a := by
  cases h with
  | refused h => exact Verdict.refused _
  | unavailable h e => exact Verdict.unavailable e
  | countFailed h e r =>
      refine Verdict.unexecuted [_] ?_ _ e _
      simp
  | uncounted h total r =>
      refine Verdict.smooth ?_ (by simp [Failure.kind])
      simp [smooth_execute, not_looksUp_of_plan h]
  | failed h htotal e r =>
      refine Verdict.unexecuted [_, _] ?_ _ e _
      simp [smooth_execute, not_looksUp_of_plan h]
  | uncommitted h htotal found e =>
      refine Verdict.uncommitted [_, _, _] ?_ e
      simp [smooth_execute, not_looksUp_of_plan h]
  | answered h htotal found =>
      refine Verdict.smooth ?_ (by simp)
      simp [smooth_execute, not_looksUp_of_plan h]

/-- **The answer to a creation is decided by the first step that goes wrong.** -/
theorem CreateCourse.verdict {r : Repository} {attributes : Record} {a : Answer Record}
    (h : CreateCourse r attributes log a) : Verdict r.schema log a := by
  cases h with
  | refused h => exact Verdict.refused _
  | unavailable h e => exact Verdict.unavailable e
  | failed h e x =>
      refine Verdict.unexecuted [_] ?_ _ e _
      simp
  | miscounted h rows x =>
      refine Verdict.smooth ?_ (by simp [Failure.kind])
      simp [smooth_execute, not_looksUp_of_creation h]
  | uncommitted h rows e =>
      refine Verdict.uncommitted [_, _] ?_ e
      simp [smooth_execute, not_looksUp_of_creation h]
  | answered h rows =>
      refine Verdict.smooth ?_ (by simp)
      simp [smooth_execute, not_looksUp_of_creation h]

/-- Reading back tells of a row that is gone, and otherwise what the look-up tells. -/
theorem Verdict.reread {a : Answer (Option Record)} (h : Verdict s log a) (id : String) :
    Verdict s log (rereadAnswer s id a) := by
  cases h with
  | smooth h ha =>
      refine Verdict.smooth h fun f hf => ?_
      match a, ha, hf with
      | .error g, ha, hf => exact ha f hf
      | .ok none, ha, hf =>
          obtain rfl := Except.error.inj hf
          simp [Failure.kind]
  | failed front back hlog hfront hback hx ha =>
      exact Verdict.failed front back hlog hfront hback hx (by rw [ha]; rfl)
  | several front hlog hfront hst hrows ha =>
      exact Verdict.several front hlog hfront hst hrows (by rw [ha]; rfl)

/-- **The answer to an update is decided by the first step that goes wrong**, be it in changing the
row or in reading it back. -/
theorem UpdateCourse.verdict {id : String} {attributes : Record} {a : Answer (Option Record)}
    (h : UpdateCourse s id attributes log a) : Verdict s log a := by
  cases h with
  | unread h => exact Verdict.refused _
  | refused hkey h => exact Verdict.refused _
  | unavailable hkey h e => exact Verdict.unavailable e
  | unselected hkey h e x =>
      refine Verdict.unexecuted [_] ?_ _ e _
      simp
  | several hkey h rows x =>
      refine Verdict.several [_] rfl ?_ ⟨_, rfl⟩ rows rfl
      simp
  | absent hkey h rows x =>
      refine Verdict.smooth ?_ (by simp)
      simp [smooth_execute, rows]
  | unwritten hkey h rows hwhy x =>
      refine Verdict.smooth ?_ (by simp [Failure.kind])
      simp [smooth_execute, rows]
  | failed hkey h rows hupdate e x =>
      refine Verdict.unexecuted [_, _] ?_ _ e _
      simp [smooth_execute, rows]
  | miscounted hkey h rows hupdate affected x =>
      refine Verdict.smooth ?_ (by simp [Failure.kind])
      simp [smooth_execute, rows, not_looksUp_of_writeBack hupdate]
  | uncommitted hkey h rows hupdate affected e =>
      refine Verdict.uncommitted [_, _, _] ?_ e
      simp [smooth_execute, rows, not_looksUp_of_writeBack hupdate]
  | committed hkey h rows hupdate affected again =>
      -- all went well up to the commit, so reading back decides
      refine (again.verdict.reread id).prepend [_, _, _, _] ?_
      simp [smooth_execute, rows, not_looksUp_of_writeBack hupdate]

end Courses

namespace Operation

/-- Every path through an operation ends as the first step that goes wrong has decided. -/
theorem verdict_path {r : Repository} {op : Operation} {log : List Exchange}
    {a : Answer op.Result} (h : Session.Path (op.session r) log a) : Verdict r.schema log a := by
  cases op with
  | list q => exact (ListCourse.of_path h).verdict
  | get id => exact (GetCourse.of_path h).verdict
  | update id attributes => exact (UpdateCourse.of_path h).verdict
  | create attributes => exact (CreateCourse.of_path h).verdict

/-- **The first step that fails decides the answer.**  All steps are answered by the script within
the limit, and if the first one to fail comes too late, this is what the answer tells.  Rows that
contradict the schema are told of exactly when a look-up has found several; nothing is executed
behind such a look-up, and the answer tells how many rows there are and nothing else about them.
What rollbacks come to changes neither the answer nor what is executed. -/
theorem firstFailure_run (r : Repository) (op : Operation) (limit : Duration) (script : Script) :
    let b := Script.backend limit
    let run := (op.session r).run b script
    let log := (op.session r).log b script
    (∀ x, log.find? Exchange.failed = some x → ∃ f, run.answer = .error f ∧ Told r.schema x f) ∧
    script.Follows limit log ∧
    (∀ front x back what, log = front ++ x :: back → (∀ y ∈ front, y.failed = false) →
      (script.behind front).Late limit x what → ∃ f, run.answer = .error f ∧
        f.kind = .persistence ∧ f.detail = what ++ " timed out after " ++ limit.display) ∧
    ((∃ f, run.answer = .error f ∧ f.kind = .consistency) ↔
      ∃ st out, .execute st (.ok out) ∈ log ∧ st.LooksUp r.schema ∧ 2 ≤ out.rows.length) ∧
    (∀ st out, .execute st (.ok out) ∈ log → st.LooksUp r.schema → 2 ≤ out.rows.length →
      run.answer = .error (.consistency r.schema.resource out.rows.length) ∧
        ∃ front x, log = front ++ [.execute st (.ok out), .rollback x]) ∧
    ∀ script', script.SameButRollback script' →
      run.answer = ((op.session r).run b script').answer ∧
        run.statements = ((op.session r).run b script').statements := by
  intro b run log
  have hverdict : Verdict r.schema log run.answer :=
    verdict_path (Session.path_run b (op.session r) script)
  have hfollows : script.Follows limit log := (op.session r).follows_log limit script
  refine ⟨fun x hx => hverdict.told_of_failed hx, hfollows, ?_, hverdict.consistency_iff, ?_, ?_⟩
  · intro front x back what hlog hfront hlate
    exact hverdict.told_of_late hfollows hlog hfront hlate
  · intro st out hmem hst hrows
    exact hverdict.several_of_mem hmem hst hrows
  · intro script' hscript
    exact (op.session r).run_sameButRollback limit hscript

/-- A store that never answers a statement, and is lost when it shall roll back. -/
def stuck : Script :=
  ⟨[], [⟨.forever, .ok (.ofRows [])⟩], [], [⟨.millis 0, .error (.plain "connection reset")⟩]⟩

/-- What takes too long has failed, and the rollback behind it is not told of. -/
example :
    let r : Repository := ⟨books, ⟨2024, 5, 17, by decide⟩⟩
    (((Operation.get "7").session r).run (Script.backend (.ofSeconds 5)) stuck).answer =
      .error (.persistence (.reported "statement timed out after 5s")) := by
  rfl

end Operation

end Circulation
