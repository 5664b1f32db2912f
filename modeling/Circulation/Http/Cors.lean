/-
**Who may use the service from other pages.**

A browser asks before it lets a page use a service of another origin.  Only local pages may, unless
all are let in.

Main definitions:

* `Http.Origins` — the origins that are let in;
* `Http.Origins.answer?` — what an origin is told;
* `Http.Origins.preflight`, `Http.Origins.mark` — the answer to a browser that asks, and the headers
  of every other response.
-/

import Circulation.Http.Message

set_option relaxedAutoImplicit false
set_option autoImplicit false

namespace Circulation.Http

/-- The origins that are let in. -/
inductive Origins where
  /-- The pages of this machine. -/
  | localOnly
  | all
deriving DecidableEq

/-- The origins of this machine. -/
def localOrigins : List String :=
  ["http://localhost:3000", "http://localhost:3030", "http://127.0.0.1:3000",
    "http://127.0.0.1:3030"]

namespace Origins

/-- The origin that is let in, if the one that asks is. -/
def answer? (o : Origins) (origin : Option String) : Option String :=
  match o with
  | all => some "*"
  | localOnly => origin.filter localOrigins.contains

/-- The parts of a request that a response depends on. -/
def varying : String := "origin, access-control-request-method, access-control-request-headers"

/-- A response with the headers that every response has. -/
def withOrigin (o : Origins) (origin : Option String) (r : Response) : Response :=
  let r := r.withHeader "vary" varying
  match o.answer? origin with
  | some origin => r.withHeader "access-control-allow-origin" origin
  | none => r

/-- A response that is no answer to a browser that asks. -/
def mark (o : Origins) (origin : Option String) (r : Response) : Response :=
  let r := o.withOrigin origin r
  match o with
  | all => r.withHeader "access-control-expose-headers" "*"
  | localOnly => r

/-- The answer to a browser that asks: every method and every header may be used. -/
def preflight (o : Origins) (origin : Option String) (r : Response) : Response :=
  ((o.withOrigin origin r).withHeader "access-control-allow-methods" "*").withHeader
    "access-control-allow-headers" "*"

end Origins

end Circulation.Http
