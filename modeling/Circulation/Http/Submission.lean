/-
**Submissions: the attributes that a client sends.**

A submission is a document `data` with `attributes` and possibly a `type`.  It is read off the
tokens from the left to the right, and the first fault decides: a text that is no JSON is malformed,
JSON of another shape is misshapen.  What has no place in the shape is passed over.  A list in the
order of the fields is taken as well.

Main definitions:

* `Http.Submission` — what a client sends;
* `Http.SubmissionFault` — why a body is none;
* `Http.Submission.read` — reading a body.
-/

import Circulation.Json.Reader
import Circulation.Record

set_option relaxedAutoImplicit false
set_option autoImplicit false

namespace Circulation.Http

/-! ### Submissions -/

/-- The attributes that a client sends, and the resource that it says they belong to. -/
structure Submission where
  type : Option String
  attributes : Record

/-- Why a body is no submission. -/
inductive SubmissionFault where
  /-- It is no JSON. -/
  | malformed
  /-- It is JSON of another shape. -/
  | misshapen
deriving DecidableEq

/-- Reading something off the front of tokens. -/
abbrev Reading (α : Type) := List Token → Except SubmissionFault (α × List Token)

/-! ### Faults -/

/-- The fault of a value that begins with a token and stands where another one should.  A scalar is
read before its shape counts. -/
def faultAt : List Token → SubmissionFault
  | .number n :: _ => if n.value?.isNone then .malformed else .misshapen
  | .text ps :: _ => if (textValue? ps).isNone then .malformed else .misshapen
  | .null :: _ => .misshapen
  | .bool _ :: _ => .misshapen
  | .openArray :: _ => .misshapen
  | .openObject :: _ => .misshapen
  | _ => .malformed

/-! ### Fields -/

/-- The fields of an object up to its end, at most `n` of them; `field` reads one behind its
name. -/
def readFields {σ : Type} (field : σ → String → Reading σ) : Nat → σ → Reading σ
  | 0, _, _ => .error .malformed
  | n + 1, s, .text ps :: ts =>
      match textValue? ps with
      | none => .error .malformed
      | some name =>
          match field s (String.ofList name) ts with
          | .error fault => .error fault
          | .ok (s, .comma :: ts) => readFields field n s ts
          | .ok (s, .closeObject :: ts) => .ok (s, ts)
          | .ok _ => .error .malformed
  | _, _, _ => .error .malformed

/-- The fields of an object behind its opening bracket. -/
def readObject {σ : Type} (field : σ → String → Reading σ) (s : σ) : Reading σ
  | .closeObject :: ts => .ok (s, ts)
  | ts => readFields field ts.length s ts

/-- The value behind a colon. -/
def behindColon {α : Type} (value : Reading α) : Reading α
  | .colon :: ts => value ts
  | _ => .error .malformed

/-- A value that is passed over. -/
def passOver : Reading Unit := fun ts =>
  match skipValue ts with
  | some ts => .ok ((), ts)
  | none => .error .malformed

/-! ### The parts of a submission -/

/-- A text, or null. -/
def readType : Reading (Option String)
  | .null :: ts => .ok (none, ts)
  | .text ps :: ts =>
      match textValue? ps with
      | some cs => .ok (some (String.ofList cs), ts)
      | none => .error .malformed
  | ts => .error (faultAt ts)

/-- The brackets that are open around the attributes. -/
def levelsAround : Nat := 2

/-- An object of any fields. -/
def readAttributes : Reading Record
  | .openObject :: ts =>
      match readValue levelsAround (.openObject :: ts) with
      | some (.obj fields, ts) => .ok (Dict.ofList fields, ts)
      | _ => .error .malformed
  | ts => .error (faultAt ts)

/-- What is known of a submission while its fields are read. -/
structure Partial where
  type : Option (Option String)
  attributes : Option Record

/-- The submission that is known in the end; attributes that were not sent are none. -/
def Partial.finish (p : Partial) : Submission := ⟨p.type.join, p.attributes.getD .empty⟩

/-- One field of a submission; none may come twice. -/
def readPart (p : Partial) (name : String) : Reading Partial := fun ts =>
  if name = "type" then
    if p.type.isSome then .error .misshapen
    else (behindColon readType ts).map fun r => ({ p with type := some r.1 }, r.2)
  else if name = "attributes" then
    if p.attributes.isSome then .error .misshapen
    else (behindColon readAttributes ts).map fun r => ({ p with attributes := some r.1 }, r.2)
  else (behindColon passOver ts).map fun r => (p, r.2)

/-- The end of a list. -/
def readClose {α : Type} (a : α) : Reading α
  | .closeArray :: ts => .ok (a, ts)
  | _ => .error .malformed

/-- A submission in a list: its type, then its attributes if there are any. -/
def readListed : Reading Submission
  | .closeArray :: _ => .error .misshapen
  | ts =>
      match readType ts with
      | .error fault => .error fault
      | .ok (type, .closeArray :: ts) => .ok (⟨type, .empty⟩, ts)
      | .ok (type, .comma :: ts) =>
          match readAttributes ts with
          | .error fault => .error fault
          | .ok (attributes, ts) => readClose ⟨type, attributes⟩ ts
      | .ok _ => .error .malformed

/-- A submission, as an object or as a list. -/
def readSubmission : Reading Submission
  | .openObject :: ts => (readObject readPart ⟨none, none⟩ ts).map fun r => (r.1.finish, r.2)
  | .openArray :: ts => readListed ts
  | ts => .error (faultAt ts)

/-! ### The document -/

/-- One field of a document; its data may not come twice. -/
def readDatum (d : Option Submission) (name : String) : Reading (Option Submission) := fun ts =>
  if name = "data" then
    if d.isSome then .error .misshapen
    else (behindColon readSubmission ts).map fun r => (some r.1, r.2)
  else (behindColon passOver ts).map fun r => (d, r.2)

/-- A document, as an object or as a list. -/
def readDocument : Reading Submission
  | .openObject :: ts =>
      match readObject readDatum none ts with
      | .error fault => .error fault
      | .ok (none, _) => .error .misshapen
      | .ok (some s, ts) => .ok (s, ts)
  | .openArray :: .closeArray :: _ => .error .misshapen
  | .openArray :: ts =>
      match readSubmission ts with
      | .error fault => .error fault
      | .ok (s, ts) => readClose s ts
  | ts => .error (faultAt ts)

/-- The submission of a body that holds nothing else. -/
def Submission.read (body : String) : Except SubmissionFault Submission :=
  match readDocument (tokens body) with
  | .error fault => .error fault
  | .ok (s, []) => .ok s
  | .ok _ => .error .malformed

end Circulation.Http
