/-
**Logs that follow a script.**

Whatever is asked of a script takes the next entry of one queue and leaves the others alone, so the
log of a run tells how far the script has got.  An exchange is answered with what its entry comes to
within the limit: with what was laid down if that arrives in time, and else with an error that tells
which step was too slow.

Main definitions:

* `Script.next`, `Script.behind` — the script behind an exchange, and behind a log;
* `Script.Answers`, `Script.Follows` — an exchange that the next entry answers, and a log of such;
* `Script.Late` — the steps that take longer than the limit.

Main results:

* `Session.follows_log` — **every run on a script follows it**;
* `Script.Follows.answers` — an exchange is answered by the script behind all earlier ones;
* `Script.Late.eq_timedOut` — what comes too late is answered with the limit, whatever was laid down.
-/

import Circulation.Proofs.Store.Path
import Circulation.Store.Script

set_option relaxedAutoImplicit false
set_option autoImplicit false

namespace Circulation

namespace Script

/-! ### Queues -/

/-- The script behind an exchange, which has taken the next entry of its queue. -/
def next (script : Script) : Exchange → Script
  | .acquire _ => { script with acquire := script.acquire.tail }
  | .execute .. => { script with replies := script.replies.tail }
  | .commit _ => { script with commit := script.commit.tail }
  | .rollback _ => { script with rollback := script.rollback.tail }

/-- The script behind the exchanges of a log. -/
def behind (script : Script) (log : List Exchange) : Script := log.foldl next script

/-- An exchange is answered with what the next entry of its queue comes to within a limit. -/
def Answers (limit : Duration) (script : Script) : Exchange → Prop
  | .acquire answer => answer = script.nextAcquire
  | .execute _ answer => answer = script.nextReply.within "statement" limit
  | .commit answer => answer = script.nextCommit.within "commit" limit
  | .rollback answer => answer = script.nextRollback.within "rollback" limit

/-- A log whose exchanges are answered by a script, one after the other. -/
inductive Follows (limit : Duration) : Script → List Exchange → Prop
  | nil (script : Script) : Follows limit script []
  | cons {script : Script} {x : Exchange} {log : List Exchange} (hx : script.Answers limit x)
      (hlog : Follows limit (script.next x) log) : Follows limit script (x :: log)

variable {limit : Duration} {script : Script}

/-- An exchange is answered by the script behind all earlier ones. -/
theorem Follows.answers {front back : List Exchange} {x : Exchange}
    (h : Follows limit script (front ++ x :: back)) : (script.behind front).Answers limit x := by
  induction front generalizing script with
  | nil =>
      cases h with
      | cons hx hlog => exact hx
  | cons y front ih =>
      cases h with
      | cons hy hlog => exact ih hlog

/-! ### Steps that come too late -/

/-- A step that takes longer than a limit, by its name.  Asking for a connection knows no limit, and
what a rollback comes to is told to nobody. -/
inductive Late (limit : Duration) (script : Script) : Exchange → String → Prop
  | statement (st : Statement) (answer : Except StoreError Outcome)
      (h : script.nextReply.delay.arrives limit = false) :
      Late limit script (.execute st answer) "statement"
  | commit (answer : Except StoreError Unit)
      (h : script.nextCommit.delay.arrives limit = false) :
      Late limit script (.commit answer) "commit"

/-- **What comes too late is answered with the limit**, whatever was laid down. -/
theorem Late.eq_timedOut {x : Exchange} {what : String} (h : Late limit script x what)
    (hx : script.Answers limit x) :
    (∃ st, x = .execute st (.error (.timedOut what limit))) ∨
      x = .commit (.error (.timedOut what limit)) := by
  cases h with
  | statement st answer h => exact Or.inl ⟨st, congrArg _ (hx.trans (Attempt.within_eq_timedOut h))⟩
  | commit answer h => exact Or.inr (congrArg _ (hx.trans (Attempt.within_eq_timedOut h)))

end Script

/-! ### Runs -/

/-- **Every run on a script follows it.** -/
theorem Session.follows_log {α : Type} {held : Bool} (limit : Duration) (s : Session α held)
    (script : Script) : script.Follows limit (s.log (Script.backend limit) script) := by
  induction s generalizing script with
  | done a => exact .nil script
  | acquire refused acquired ihr iha =>
      rcases hb : (Script.backend limit).acquire script with ⟨answer, script'⟩
      obtain ⟨hanswer, rfl⟩ := Prod.mk.inj hb
      cases answer with
      | ok u =>
          simp only [log, hb]
          exact .cons hanswer.symm (iha _)
      | error e =>
          simp only [log, hb]
          exact .cons hanswer.symm (ihr e _)
  | execute st next ih => exact .cons rfl (ih _ _)
  | commit next ih => exact .cons rfl (ih _ _)
  | rollback next ih => exact .cons rfl (ih _)

end Circulation
