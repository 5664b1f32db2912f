/-
**The service: from requests to sessions.**

A path leads to the health of the service, to a collection or to a row.  Path and body are checked
before the collection is looked up.

Main definitions:

* `Http.Route`, `Http.Route.ofPath` — where a path leads;
* `Http.App` — what the service is set up with;
* `Http.App.respond` — the session that answers a request.
-/

import Circulation.Document
import Circulation.Http.Cors
import Circulation.Http.MediaType
import Circulation.Http.Problem
import Circulation.Http.Submission
import Circulation.Store.Repository
import Circulation.Text.Form

set_option relaxedAutoImplicit false
set_option autoImplicit false

namespace Circulation.Http

/-! ### Routes -/

/-- Where a path leads; names are still encoded. -/
inductive Route where
  | health
  | collection (name : List Char)
  | row (name id : List Char)
  | nowhere
deriving DecidableEq

/-- Where a path leads: no part of it may be empty. -/
def Route.ofPath (path : List Char) : Route :=
  match (path.splitOnP (· == '/')).map fun part => (part, String.ofList part) with
  | [(_, ""), (_, "health")] => health
  | [(_, ""), (_, "library"), (name, _)] => if name.isEmpty then nowhere else collection name
  | [(_, ""), (_, "library"), (name, _), (id, _)] =>
      if name.isEmpty || id.isEmpty then nowhere else row name id
  | _ => nowhere

/-- The methods that a route knows. -/
def Route.methods : Route → Option String
  | health => some "GET,HEAD"
  | collection _ => some "GET,HEAD,POST"
  | row .. => some "GET,HEAD,PATCH"
  | nowhere => none

/-! ### The service -/

/-- What the service is set up with. -/
structure App where
  /-- The address that links begin with. -/
  base : String
  origins : Origins
  /-- The current day for new rows. -/
  today : Date

/-- The response to a path whose bytes are broken. -/
def brokenPath : Response := .ofText 400 "The path is not UTF-8"

/-- The part of a path as a text. -/
def pathText (cs : List Char) : Except Response String :=
  match Text.percentDecode? cs with
  | some ds => .ok (String.ofList ds)
  | none => .error brokenPath

/-- The submission of a request, whose body must claim to be JSON. -/
def submissionOf (r : Request) : Except Response Submission :=
  if (r.header? "content-type").any isJsonType then
    match Submission.read r.body with
    | .ok s => .ok s
    | .error .malformed => .error (.ofText 400 "The body is not JSON")
    | .error .misshapen => .error (.ofText 422 "The body has another shape")
  else .error (.ofText 415 "The body must be JSON")

/-- The schema of a collection. -/
def schemaOf (name : String) : Except Response Schema :=
  match Schema.ofCollection? name with
  | some s => .ok s
  | none => .error (Problem.noCollection name).response

/-- The session of a request that passed its checks. -/
def checked {α : Type} (found : Except Response α) (next : α → Session Response false) :
    Session Response false :=
  match found with
  | .ok a => next a
  | .error response => .done response

/-- The response to an answer. -/
def answered {α : Type} (encode : α → Response) (answer : Answer α) : Response :=
  match answer with
  | .ok a => encode a
  | .error f => (Problem.ofFailure f).response

namespace App

variable (app : App)

/-- The links of a resource. -/
def service (s : Schema) : Service := ⟨s, app.base⟩

/-- The operations on a resource. -/
def repository (s : Schema) : Repository := ⟨s, app.today⟩

/-- Whether the store can be reached. -/
def healthReport (reachable : Bool) : Response :=
  .ofJson (if reachable then 200 else 503) <|
    .object [
      ("status", .str (if reachable then "ok" else "degraded")),
      ("service", .str "library-server"),
      ("version", .str "0.3.0"),
      ("database", .str (if reachable then "reachable" else "unreachable"))]

/-- Ask for a connection and give it back. -/
def health : Session Response false :=
  .acquire (fun _ => .done (healthReport false)) (.rollback (.done (healthReport true)))

/-- The rows that a query asks for. -/
def list (name : List Char) (r : Request) : Session Response false :=
  checked (pathText name) fun name =>
    checked (schemaOf name) fun s =>
      let params := Dict.ofList (Text.formPairs r.query)
      ((app.repository s).list (.ofPairs params.toList)).map <|
        answered fun rows => .ofJson 200 ((app.service s).page rows params)

/-- A new row. -/
def create (name : List Char) (r : Request) : Session Response false :=
  checked (pathText name) fun name =>
    checked (submissionOf r) fun sent =>
      checked (schemaOf name) fun s =>
        let service := app.service s
        ((app.repository s).create sent.attributes).map <|
          answered fun row => .ofJson 201 (service.single row service.collectionUrl)

/-- The response with a row that may be missing. -/
def found (s : Schema) (id : String) : Answer (Option Record) → Response :=
  answered fun
    | some row =>
        let service := app.service s
        .ofJson 200 (service.single row (service.resourceUrl id))
    | none => (Problem.noRow s.resource id).response

/-- The row of an identifier. -/
def get (name id : List Char) : Session Response false :=
  checked (do return (← pathText name, ← pathText id)) fun (name, id) =>
    checked (schemaOf name) fun s => ((app.repository s).get id).map (app.found s id)

/-- The row of an identifier, changed. -/
def update (name id : List Char) (r : Request) : Session Response false :=
  checked (do return (← pathText name, ← pathText id)) fun (name, id) =>
    checked (submissionOf r) fun sent =>
      checked (schemaOf name) fun s =>
        ((app.repository s).update id sent.attributes).map (app.found s id)

/-- The session that answers a request by its route and method. -/
def dispatch (route : Route) (r : Request) : Session Response false :=
  match route, r.method with
  | .health, "GET" => health
  | .health, "HEAD" => health
  | .collection name, "GET" => app.list name r
  | .collection name, "HEAD" => app.list name r
  | .collection name, "POST" => app.create name r
  | .row name id, "GET" => app.get name id
  | .row name id, "HEAD" => app.get name id
  | .row name id, "PATCH" => app.update name id r
  | .nowhere, _ => .done (.bare 404)
  | route, _ => .done ((Response.bare 405).withHeader "allow" (route.methods.getD ""))

/-- The session that answers a request.  A browser that asks whom the service lets in is answered
without looking further, and who asks for the head of a response gets no more of it. -/
def respond (r : Request) : Session Response false :=
  let route := Route.ofPath r.path
  let origin := r.header? "origin"
  if r.method = "OPTIONS" then
    let known := match route.methods with
      | some methods => (Response.bare 200).withHeader "allow" methods
      | none => .bare 200
    .done (app.origins.preflight origin known)
  else
    (app.dispatch route r).map fun response =>
      let response := app.origins.mark origin response
      if r.method = "HEAD" then response.withoutBody else response

end App

end Circulation.Http
