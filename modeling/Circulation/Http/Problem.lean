/-
**Problems: how failures are told to clients.**

A client learns what is wrong with its request and which row is missing.  What went wrong in the
store is not told: all such failures look the same.

Main definitions:

* `Http.Problem`, `Http.Problem.ofFailure` — problems, and the problem that a failure is;
* `Http.Problem.status`, `Http.Problem.title`, `Http.Problem.detail` — what is told;
* `Http.Problem.response` — the response.
-/

import Circulation.Failure
import Circulation.Http.Message

set_option relaxedAutoImplicit false
set_option autoImplicit false

namespace Circulation.Http

/-- What a client is told when it does not get what it asked for. -/
inductive Problem where
  | badRequest (detail : String)
  | conflict (detail : String)
  | internal
  /-- No row has the identifier. -/
  | noRow (resource id : String)
  | noCollection (name : String)
deriving DecidableEq

namespace Problem

/-- The problem that a failure is. -/
def ofFailure (f : Failure) : Problem :=
  match f.kind with
  | .validation => badRequest f.detail
  | .integrity => conflict f.detail
  | .persistence => internal
  | .consistency => internal

/-- The status of a problem. -/
def status : Problem → Nat
  | badRequest _ => 400
  | conflict _ => 409
  | internal => 500
  | noRow .. => 404
  | noCollection _ => 404

/-- The title of a problem. -/
def title : Problem → String
  | badRequest _ => "Bad Request"
  | conflict _ => "Integrity Constraint Violated"
  | internal => "Internal Server Error"
  | noRow .. => "Not Found"
  | noCollection _ => "Not Found"

/-- What is said about a problem. -/
def detail : Problem → String
  | badRequest detail => detail
  | conflict detail => detail
  | internal => "an internal error occurred"
  | noRow resource id => s!"A {resource} with the specified ID '{id}' was not found."
  | noCollection name => s!"unknown resource collection '{name}'"

/-- The response to a request with a problem. -/
def response (p : Problem) : Response :=
  .ofJson p.status <|
    .object [("errors", .arr [.object [
      ("status", .str p.status.repr), ("title", .str p.title), ("detail", .str p.detail)]])]

end Problem

end Circulation.Http
