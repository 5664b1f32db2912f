/-
**The time limit that a server keeps for a transaction.**

A transaction on a server with a limit begins with two commands: one opens it, the other sets the
limit, as a whole number of milliseconds.  What a server makes of such a number is its own affair: it
takes the positive numbers of a signed word of 32 bits, zero switches the limit off, and greater
numbers are refused.  So a limit is kept for every statement as long as it is a millisecond at least
and its milliseconds fit the word; a shorter one is lost, and a longer one never begins.  Where a
server refuses the limit for a reason of its own nothing is executed without it.

Main definitions:

* `Server.limitOf?`, `Server.limitAfter` — the number that a command sets, and the limit that is in
  force after a command;
* `Server.StandsUnder` — every statement of a log is sent while a limit is in force;
* `Server.Sets`, `Server.Kept` — a transaction begins with a limit, and the limit is kept.

Main results:

* `Server.limitOf?_limitSql` — a server reads the number that was sent;
* `Server.acquire_cases` — what asking for a connection comes to;
* `Server.sent_run` — **every statement of every run stands under the limit**, if a server takes it;
* `Server.limit_kept` — **the limits that are kept**, and those that settings can ask for.
-/

import Circulation.Config.Settings
import Circulation.Database.Server
import Circulation.Proofs.Text.Cut
import Circulation.Text.Numeral

set_option relaxedAutoImplicit false
set_option autoImplicit false

namespace Circulation

/-! ### Milliseconds -/

namespace Duration

/-- Less than a millisecond is lost where only whole ones count. -/
theorem wholeMillis_near (d : Duration) :
    d.wholeMillis * 1000000 ≤ d.nanos ∧ d.nanos < (d.wholeMillis + 1) * 1000000 := by
  rw [wholeMillis]
  omega

/-- A number of milliseconds is in range if the span is. -/
theorem wholeMillis_range_iff {d : Duration} {n : Nat} :
    (1 ≤ d.wholeMillis ∧ d.wholeMillis ≤ n) ↔
      1000000 ≤ d.nanos ∧ d.nanos < (n + 1) * 1000000 := by
  rw [wholeMillis]
  omega

/-- A second has a thousand milliseconds. -/
theorem wholeMillis_ofSeconds (n : Nat) : (ofSeconds n).wholeMillis = 1000 * n := by
  change n * 1000000000 / 1000000 = 1000 * n
  omega

end Duration

namespace Server

/-! ### How a server reads its commands -/

/-- The greatest number of milliseconds that a server takes. -/
def greatestLimit : Nat := 2147483647

/-- The number that a command sets the limit of its transaction to. -/
def limitOf? (command : String) : Option Nat :=
  ("SET LOCAL statement_timeout = ".toList.isPrefixOf? command.toList).bind Text.readNat?

/-- The limit in force after a command.  A transaction begins without one and takes it along when it
ends; zero switches it off, and a number that is too great is refused. -/
def limitAfter (command : String) : Option Nat :=
  (limitOf? command).bind fun n => if 1 ≤ n ∧ n ≤ greatestLimit then some n else none

/-- Every statement of a log is sent while a limit is in force; `before` is in force where the log
begins. -/
def StandsUnder (n : Nat) (before : Option Nat) : List Sent → Prop
  | [] => True
  | .control command :: rest => StandsUnder n (limitAfter command) rest
  | .statement _ :: rest => before = some n ∧ StandsUnder n before rest

@[simp] theorem standsUnder_nil (n : Nat) (before : Option Nat) : StandsUnder n before [] := trivial

@[simp] theorem standsUnder_control {n : Nat} {before : Option Nat} {command : String}
    {rest : List Sent} :
    StandsUnder n before (.control command :: rest) ↔
      StandsUnder n (limitAfter command) rest := Iff.rfl

@[simp] theorem standsUnder_statement {n : Nat} {before : Option Nat} {q : Statement}
    {rest : List Sent} :
    StandsUnder n before (.statement q :: rest) ↔
      before = some n ∧ StandsUnder n before rest := Iff.rfl

/-- **A server reads the number that was sent.** -/
theorem limitOf?_limitSql (limit : Duration) :
    limitOf? (limitSql limit) = some limit.wholeMillis := by
  have hchars : (limitSql limit).toList =
      "SET LOCAL statement_timeout = ".toList ++ limit.wholeMillis.repr.toList :=
    String.toList_append
  rw [limitOf?, hchars, Text.isPrefixOf?_append, Option.bind_some, Text.readNat?_repr]

/-- The command that sets a limit puts it in force if it is in range. -/
theorem limitAfter_limitSql {limit : Duration} (hpos : 1 ≤ limit.wholeMillis)
    (hle : limit.wholeMillis ≤ greatestLimit) :
    limitAfter (limitSql limit) = some limit.wholeMillis := by
  rw [limitAfter, limitOf?_limitSql, Option.bind_some, if_pos ⟨hpos, hle⟩]

/-! ### What is sent -/

section Run

variable {limit : Duration} {onLimit : Server → Except StoreError Unit} {n : Nat}

@[simp] theorem sent_opened (server : Server) :
    server.opened.sent = server.sent ++ [.control "BEGIN"] := rfl

@[simp] theorem sent_limited (server : Server) (limit : Duration) :
    (server.limited limit).sent = server.sent ++ [.control (limitSql limit)] := rfl

@[simp] theorem sent_rolledBack (server : Server) :
    server.rolledBack.sent = server.sent ++ [.control "ROLLBACK"] := rfl

/-- **What asking for a connection comes to**: the transaction is not opened, its limit is set, or its
limit is refused and it is rolled back. -/
theorem acquire_cases (limit : Duration) (onLimit : Server → Except StoreError Unit)
    (server : Server) :
    (∃ e, (backend (some limit) onLimit).acquire server = (.error e, server.opened)) ∨
    (backend (some limit) onLimit).acquire server = (.ok (), server.opened.limited limit) ∨
    ∃ e, (backend (some limit) onLimit).acquire server =
      (.error e, (server.opened.limited limit).rolledBack) := by
  unfold backend
  simp only
  cases server.begin.head?.getD (.ok ()) with
  | error e => exact Or.inl ⟨e, rfl⟩
  | ok u =>
      cases hlimit : onLimit (server.opened.limited limit) with
      | ok u => exact Or.inr (Or.inl (by simp only [hlimit]))
      | error e => exact Or.inr (Or.inr ⟨e, by simp only [hlimit]⟩)

/-- A connection that is handed out has its limit set. -/
theorem sent_acquire {server : Server}
    (h : ((backend (some limit) onLimit).acquire server).1 = .ok ()) :
    ((backend (some limit) onLimit).acquire server).2.sent =
      server.sent ++ [.control "BEGIN", .control (limitSql limit)] := by
  rcases acquire_cases limit onLimit server with ⟨e, hacquire⟩ | hacquire | ⟨e, hacquire⟩
  · rw [hacquire] at h
    cases h
  · simp [hacquire]
  · rw [hacquire] at h
    cases h

/-- **Every statement of every run stands under the limit**, if the command that sets it puts it in
force. -/
theorem sent_run (hlimit : limitAfter (limitSql limit) = some n) {α : Type} {held : Bool}
    (s : Session α held) (before : Option Nat) (hbefore : held = true → before = some n)
    (server : Server) :
    ∃ sent, (s.run (backend (some limit) onLimit) server).store.sent = server.sent ++ sent ∧
      StandsUnder n before sent := by
  -- while a session holds a connection the limit of its transaction is in force; else none need be
  have hidle : ∀ before : Option Nat, false = true → before = some n :=
    fun _ h => absurd h Bool.false_ne_true
  induction s generalizing before server with
  | done a => exact ⟨[], (List.append_nil _).symm, standsUnder_nil n before⟩
  | acquire refused acquired ihr iha =>
      rcases acquire_cases limit onLimit server with ⟨e, hacquire⟩ | hacquire | ⟨e, hacquire⟩
      · obtain ⟨sent, hrun, hstands⟩ := ihr e (limitAfter "BEGIN") (hidle _) server.opened
        refine ⟨.control "BEGIN" :: sent, ?_, standsUnder_control.2 hstands⟩
        simp [Session.run, hacquire, Run.after, hrun]
      · obtain ⟨sent, hrun, hstands⟩ :=
          iha (limitAfter (limitSql limit)) (fun _ => hlimit) (server.opened.limited limit)
        refine ⟨.control "BEGIN" :: .control (limitSql limit) :: sent, ?_, ?_⟩
        · simp [Session.run, hacquire, Run.after, hrun]
        · rw [standsUnder_control, standsUnder_control]
          exact hstands
      · -- nothing is executed between the limit that is refused and the rollback
        obtain ⟨sent, hrun, hstands⟩ :=
          ihr e (limitAfter "ROLLBACK") (hidle _) (server.opened.limited limit).rolledBack
        refine ⟨.control "BEGIN" :: .control (limitSql limit) :: .control "ROLLBACK" :: sent, ?_, ?_⟩
        · simp [Session.run, hacquire, Run.after, hrun]
        · rw [standsUnder_control, standsUnder_control, standsUnder_control]
          exact hstands
  | execute q next ih =>
      obtain ⟨sent, hrun, hstands⟩ := ih _ before hbefore _
      exact ⟨.statement q :: sent, hrun.trans (List.append_assoc _ _ _),
        standsUnder_statement.2 ⟨hbefore rfl, hstands⟩⟩
  | commit next ih =>
      obtain ⟨sent, hrun, hstands⟩ := ih _ (limitAfter "COMMIT") (hidle _) _
      exact ⟨.control "COMMIT" :: sent, hrun.trans (List.append_assoc _ _ _),
        standsUnder_control.2 hstands⟩
  | rollback next ih =>
      obtain ⟨sent, hrun, hstands⟩ := ih (limitAfter "ROLLBACK") (hidle _) _
      exact ⟨.control "ROLLBACK" :: sent, hrun.trans (List.append_assoc _ _ _),
        standsUnder_control.2 hstands⟩

end Run

/-! ### Limits that are kept -/

/-- A transaction that begins sets its limit to a number of milliseconds. -/
def Sets (limit : Duration) (n : Nat) : Prop :=
  ∀ (onLimit : Server → Except StoreError Unit) (server : Server),
    ((backend (some limit) onLimit).acquire server).1 = .ok () →
      ((backend (some limit) onLimit).acquire server).2.sent =
        server.sent ++ [.control "BEGIN", .control ("SET LOCAL statement_timeout = " ++ n.repr)]

/-- A limit is kept as a number of milliseconds: transactions begin with this number, a server takes
it, less than a millisecond is missing from it, and every statement of every run stands under it. -/
structure Kept (limit : Duration) (n : Nat) : Prop where
  sets : Sets limit n
  pos : 1 ≤ n
  le : n ≤ greatestLimit
  near : n * 1000000 ≤ limit.nanos ∧ limit.nanos < (n + 1) * 1000000
  stands : ∀ {α : Type} (s : Session α false) (onLimit : Server → Except StoreError Unit)
    (server : Server), ∃ sent,
      (s.run (backend (some limit) onLimit) server).store.sent = server.sent ++ sent ∧
        StandsUnder n none sent

/-- The number that is sent is the whole milliseconds of the limit. -/
theorem sets_wholeMillis (limit : Duration) : Sets limit limit.wholeMillis :=
  fun _ _ => sent_acquire

/-- A limit is kept if a server takes its whole milliseconds. -/
theorem kept_iff {limit : Duration} : Kept limit limit.wholeMillis ↔
    1 ≤ limit.wholeMillis ∧ limit.wholeMillis ≤ greatestLimit := by
  constructor
  · intro h
    exact ⟨h.pos, h.le⟩
  · rintro ⟨hpos, hle⟩
    have hlimit := limitAfter_limitSql hpos hle
    refine ⟨sets_wholeMillis limit, hpos, hle, limit.wholeMillis_near, fun s _ server => ?_⟩
    exact sent_run hlimit s none (absurd · Bool.false_ne_true) server

/-- The time limit of settings has a thousand milliseconds for each second, and one second at
least. -/
theorem wholeMillis_timeout (t : Settings) :
    t.timeout.wholeMillis = 1000 * max t.timeoutSeconds.toNat 1 :=
  Duration.wholeMillis_ofSeconds _

/-- **The limits that are kept** are those from a millisecond up to the greatest number of
milliseconds that a server takes.  Every limit is sent, with less than a millisecond missing.  The
limit that settings ask for is never switched off, and it is kept for more than twenty-four days. -/
theorem limit_kept (limit : Duration) :
    (Kept limit limit.wholeMillis ↔
      1000000 ≤ limit.nanos ∧ limit.nanos < (greatestLimit + 1) * 1000000) ∧
    Sets limit limit.wholeMillis ∧
    (limit.wholeMillis * 1000000 ≤ limit.nanos ∧
      limit.nanos < (limit.wholeMillis + 1) * 1000000) ∧
    ∀ t : Settings, t.timeout = limit → 1 ≤ limit.wholeMillis ∧
      (Kept limit limit.wholeMillis ↔ t.timeoutSeconds.toNat ≤ 2147483) := by
  refine ⟨kept_iff.trans Duration.wholeMillis_range_iff, sets_wholeMillis limit,
    limit.wholeMillis_near, ?_⟩
  rintro t rfl
  rw [kept_iff, wholeMillis_timeout, greatestLimit]
  omega

/-- A millisecond and a half is kept as a millisecond, and the limit that nobody chose is kept. -/
theorem limit_kept_oneAndHalf :
    Kept (.ofMicros 1500) 1 ∧ Settings.usual.timeout = .ofSeconds 30 ∧
      Kept Settings.usual.timeout 30000 := by
  have husual : Settings.usual.timeout = .ofSeconds 30 := by decide
  obtain ⟨-, hkept⟩ := (limit_kept (.ofSeconds 30)).2.2.2 .usual husual
  exact ⟨(limit_kept (.ofMicros 1500)).1.2 (by decide), husual, husual ▸ hkept.2 (by decide)⟩

/-- Less than a millisecond switches the limit off, and settings can ask for more than a server
takes. -/
theorem limitSql_unkept :
    let brief : Duration := .ofMicros 999
    let long : Settings := { Settings.usual with timeoutSeconds := 2147484 }
    (0 < brief.nanos ∧ limitSql brief = "SET LOCAL statement_timeout = 0" ∧
      limitAfter (limitSql brief) = none) ∧
    limitSql long.timeout = "SET LOCAL statement_timeout = 2147484000" ∧
      greatestLimit < 2147484000 ∧ limitAfter (limitSql long.timeout) = none := by
  intro brief long
  exact ⟨⟨by decide, by decide, by decide⟩, by decide, by decide, by decide⟩

end Server

end Circulation
