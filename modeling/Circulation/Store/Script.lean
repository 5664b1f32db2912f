/-
**Scripted stores: outcomes laid down in advance.**

A script holds a queue for each thing that a store can be asked.  Whoever asks gets the next entry;
an empty queue answers at once and successfully, without rows.  An entry may take its time or never
come, and what takes longer than the limit for statements has timed out.  Time counts in
milliseconds, the limit rounded up.

Main definitions:

* `Delay`, `Attempt` — how long something takes, and what it comes to;
* `Attempt.within`, `StoreError.timedOut` — what it comes to under a time limit;
* `Script` — the four queues;
* `Script.backend` — a store that follows a script.

Main results:

* `within_eq_of_arrives` — what arrives in time is what was laid down;
* `within_eq_timedOut` — what does not is an error that tells the limit.
-/

import Circulation.Duration
import Circulation.Store.Session

set_option relaxedAutoImplicit false
set_option autoImplicit false

namespace Circulation

/-! ### One attempt -/

/-- How long something takes. -/
inductive Delay where
  | millis (n : Nat)
  | forever
deriving DecidableEq

/-- Whether something arrives within a limit. -/
def Delay.arrives (limit : Duration) : Delay → Bool
  | .millis n => decide (n ≤ limit.millisUp)
  | .forever => false

/-- The error of what takes longer than a limit; `what` names it. -/
def StoreError.timedOut (what : String) (limit : Duration) : StoreError :=
  .plain (what ++ " timed out after " ++ limit.display)

/-- Something that a store is asked: how long it takes, and what it comes to. -/
structure Attempt (α : Type) where
  delay : Delay
  result : Except StoreError α

namespace Attempt

variable {α : Type}

/-- What comes at once. -/
def now (a : α) : Attempt α := ⟨.millis 0, .ok a⟩

/-- What an attempt comes to under a limit; `what` names it if it takes too long. -/
def within (what : String) (limit : Duration) (a : Attempt α) : Except StoreError α :=
  if a.delay.arrives limit then a.result else .error (.timedOut what limit)

variable {what : String} {limit : Duration} {a : Attempt α}

/-- What arrives in time is what was laid down. -/
theorem within_eq_of_arrives (h : a.delay.arrives limit = true) :
    a.within what limit = a.result := by
  simp [within, h]

/-- What does not arrive in time has failed, whatever was laid down. -/
theorem within_eq_timedOut (h : a.delay.arrives limit = false) :
    a.within what limit = .error (.timedOut what limit) := by
  simp [within, h]

end Attempt

/-! ### Scripts -/

/-- What a store answers, queue by queue.  Asking for a connection knows no limit, so only whether
it is refused counts. -/
structure Script where
  acquire : List (Except StoreError Unit)
  replies : List (Attempt Outcome)
  commit : List (Attempt Unit)
  rollback : List (Attempt Unit)

namespace Script

/-- The script without entries. -/
def empty : Script := ⟨[], [], [], []⟩

/-- Whether a connection is refused that is asked for next. -/
def nextAcquire (s : Script) : Except StoreError Unit := s.acquire.head?.getD (.ok ())

/-- The next attempt to execute a statement. -/
def nextReply (s : Script) : Attempt Outcome := s.replies.head?.getD (.now (.ofRows []))

/-- The next attempt to commit. -/
def nextCommit (s : Script) : Attempt Unit := s.commit.head?.getD (.now ())

/-- The next attempt to roll back. -/
def nextRollback (s : Script) : Attempt Unit := s.rollback.head?.getD (.now ())

/-- A store that follows a script, with a limit for everything but asking for a connection. -/
def backend (limit : Duration) : Backend Script where
  acquire s := (s.nextAcquire, { s with acquire := s.acquire.tail })
  execute _ s := (s.nextReply.within "statement" limit, { s with replies := s.replies.tail })
  commit s := (s.nextCommit.within "commit" limit, { s with commit := s.commit.tail })
  rollback s := (s.nextRollback.within "rollback" limit, { s with rollback := s.rollback.tail })

end Script

end Circulation
