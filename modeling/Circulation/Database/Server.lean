/-
**A database server, and what is sent to it.**

A transaction begins with a command of its own.  If statements have a time limit it is set for the
transaction alone, so it never reaches the next user of the connection.  A server may refuse either
command; a transaction without its limit is rolled back and not handed out.

Main definitions:

* `Server` — what a server answers, queue by queue, and what was sent to it;
* `Server.connect?` — the server, if it lets its user in;
* `Server.backend` — a store on a server;
* `Backend.transact` — one transaction of given statements, whatever they come to.
-/

import Circulation.Database.Cell
import Circulation.Duration
import Circulation.Store.Session

set_option relaxedAutoImplicit false
set_option autoImplicit false

namespace Circulation

/-! ### What goes to and fro -/

/-- What is sent to a server. -/
inductive Sent where
  /-- A command on the transaction. -/
  | control (text : String)
  | statement (s : Statement)

/-- What a server sends back: rows and the number of rows that it touched. -/
structure ServerReply where
  rows : List (List (String × Cell))
  affected : UInt64

/-- What a server answers, queue by queue, and what was sent to it so far. -/
structure Server where
  /-- Why its user is not let in. -/
  closed : Option StoreError
  begin : List (Except StoreError Unit)
  replies : List (Except StoreError ServerReply)
  commit : List (Except StoreError Unit)
  rollback : List (Except StoreError Unit)
  sent : List Sent

namespace Server

/-- The server, if it lets its user in. -/
def connect? (s : Server) : Except StoreError Server :=
  match s.closed with
  | none => .ok s
  | some e => .error e

/-- The server after something was sent to it. -/
def send (s : Server) (what : Sent) : Server := { s with sent := s.sent ++ [what] }

/-! ### A store on a server -/

/-- The command that sets the time limit of a transaction. -/
def limitSql (limit : Duration) : String :=
  "SET LOCAL statement_timeout = " ++ limit.wholeMillis.repr

/-- The error of a value that cannot be read. -/
def unreadable : StoreError := .plain "<decode error>"

/-- What a reply means for a statement: a query has rows, a command a number of rows. -/
def readReply (kind : StatementKind) (reply : ServerReply) : Except StoreError Outcome :=
  match kind with
  | .command => .ok (.ofCount reply.affected)
  | .query =>
      match reply.rows.mapM readRow? with
      | some rows => .ok (.ofRows rows)
      | none => .error unreadable

/-- The server after it was to open a transaction. -/
def opened (s : Server) : Server := { s.send (.control "BEGIN") with begin := s.begin.tail }

/-- The server after it was to set the limit of a transaction. -/
def limited (s : Server) (limit : Duration) : Server := s.send (.control (limitSql limit))

/-- The server after it was to roll a transaction back. -/
def rolledBack (s : Server) : Server :=
  { s.send (.control "ROLLBACK") with rollback := s.rollback.tail }

/-- A store on a server, with a time limit for statements if there is one.  `onLimit` is what the
server answers to the command that sets the limit, and may rest on all that the server was sent.
What becomes of a transaction whose limit is refused is told to nobody. -/
def backend (limit : Option Duration)
    (onLimit : Server → Except StoreError Unit := fun _ => .ok ()) : Backend Server where
  acquire s :=
    match s.begin.head?.getD (.ok ()), limit with
    | .ok (), some limit =>
        match onLimit (s.opened.limited limit) with
        | .ok () => (.ok (), s.opened.limited limit)
        | .error e => (.error e, (s.opened.limited limit).rolledBack)
    | result, _ => (result, s.opened)
  execute statement s :=
    ((s.replies.head?.getD (.ok ⟨[], 0⟩)).bind (readReply statement.kind),
      { s.send (.statement statement) with replies := s.replies.tail })
  commit s :=
    (s.commit.head?.getD (.ok ()), { s.send (.control "COMMIT") with commit := s.commit.tail })
  rollback s := (s.rollback.head?.getD (.ok ()), s.rolledBack)

end Server

/-! ### One transaction by hand -/

namespace Backend

variable {σ : Type} (b : Backend σ)

/-- Execute statements one after the other. -/
def executeAll (store : σ) : List Statement → List (Except StoreError Outcome) × σ
  | [] => ([], store)
  | s :: rest =>
      let (r, store) := b.execute s store
      let (rs, store) := executeAll store rest
      (r :: rs, store)

/-- Execute statements in one transaction, whatever they come to, and commit it or roll it back. -/
def transact (statements : List Statement) (committed : Bool) (store : σ) :
    Except StoreError (List (Except StoreError Outcome)) × σ :=
  match b.acquire store with
  | (.error e, store) => (.error e, store)
  | (.ok (), store) =>
      let (outcomes, store) := b.executeAll store statements
      let (ended, store) := if committed then b.commit store else b.rollback store
      (ended.map fun () => outcomes, store)

end Backend

end Circulation
