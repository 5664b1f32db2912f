/-
**Requests and responses.**

Main definitions:

* `Http.Request`, `Http.Request.header?` — a request, and a header of it in any letter case;
* `Http.Request.path`, `Http.Request.query` — the two parts of its target, which may name the host
  in front of them;
* `Http.Body`, `Http.Response` — a response and what it carries.
-/

import Circulation.Json.Value
import Circulation.Text.Case
import Circulation.Text.Cut

set_option relaxedAutoImplicit false
set_option autoImplicit false

namespace Circulation.Http

/-! ### Requests -/

/-- A request as it arrives. -/
structure Request where
  method : String
  target : String
  headers : List (String × String)
  body : String

namespace Request

variable (r : Request)

/-- The value of a header; the letter case of names does not matter. -/
def header? (name : String) : Option String :=
  (r.headers.find? fun h => Text.sameIgnoringAsciiCase h.1 name).map (·.2)

/-- The target up to its fragment. -/
def address : List Char := r.target.toList.takeWhile (· != '#')

/-- Whether a character may stand in the name of a scheme. -/
def isSchemeChar (c : Char) : Bool := c.isAlphanum || c == '+' || c == '-' || c == '.'

/-- Path and query of the target: a scheme and the host behind it are left out. -/
def location : List Char :=
  match Text.cutFirst "://".toList r.address with
  | some (scheme, rest) =>
      if !scheme.isEmpty && scheme.all isSchemeChar then
        rest.dropWhile fun c => c != '/' && c != '?'
      else r.address
  | none => r.address

/-- The path of the target, still encoded. -/
def path : List Char := r.location.takeWhile (· != '?')

/-- The query of the target, still encoded. -/
def query : List Char := (r.location.dropWhile (· != '?')).drop 1

end Request

/-! ### Responses -/

/-- What a response carries. -/
inductive Body where
  | empty
  | json (v : Json)
  | text (s : String)

/-- A response with the names of its headers in small letters. -/
structure Response where
  status : Nat
  headers : List (String × String)
  body : Body

namespace Response

/-- A response that carries JSON. -/
def ofJson (status : Nat) (v : Json) : Response :=
  ⟨status, [("content-type", "application/json")], .json v⟩

/-- A response that carries a few words. -/
def ofText (status : Nat) (s : String) : Response :=
  ⟨status, [("content-type", "text/plain; charset=utf-8")], .text s⟩

/-- A response that carries nothing. -/
def bare (status : Nat) : Response := ⟨status, [], .empty⟩

/-- A response with one more header. -/
def withHeader (r : Response) (name value : String) : Response :=
  { r with headers := r.headers ++ [(name, value)] }

/-- The response without what it carries. -/
def withoutBody (r : Response) : Response := { r with body := .empty }

end Response

end Circulation.Http
