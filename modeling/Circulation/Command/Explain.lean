/-
**What a request asks of the store.**

A list asks for a count and for a page of rows, a look-up for one row.  The statements are the ones
that the service executes; here they are only shown, and nothing is executed.

Main definitions:

* `Explanation`, `Explanation.labelled` — the statements of a request, and their labels;
* `explain` — the statements of the query of an address, or of an identifier;
* `Explanation.text`, `Explanation.json` — the two ways to write them;
* `ExplainFault` — what can be wrong with a request.
-/

import Circulation.Json.Printer
import Circulation.Store.Repository
import Circulation.Text.Form

set_option relaxedAutoImplicit false
set_option autoImplicit false

namespace Circulation

/-! ### Requests -/

/-- What can be wrong with a request. -/
inductive ExplainFault where
  | unknownCollection (name : String)
  /-- A name or a value of the query whose bytes are no text. -/
  | brokenText (raw : String)
  | refused (why : Refusal)

/-- What is said about a fault. -/
def ExplainFault.message : ExplainFault → String
  | .unknownCollection name => s!"unknown collection '{name}' (books, members, borrows)"
  | .brokenText raw => s!"invalid percent-encoding in '{raw}'"
  | .refused why => (Failure.validation why).message

/-- The statements of a request. -/
inductive Explanation where
  | rows (count page : Statement)
  | row (lookup : Statement)
deriving DecidableEq

/-- The query of an address; question marks may stand before it. -/
def queryOf? (text : String) : Except ExplainFault Query :=
  match Text.formPairs? (text.toList.dropWhile (· == '?')) with
  | .ok pairs => .ok (.ofPairs pairs)
  | .error raw => .error (.brokenText raw)

/-- The statements of a look-up when there is an identifier, and of a list otherwise. -/
def explain (collection query : String) (id : Option String) : Except ExplainFault Explanation :=
  match Schema.ofCollection? collection with
  | none => .error (.unknownCollection collection)
  | some s =>
      match id with
      | some id => ((s.lookup id).map .row).mapError .refused
      | none => do
          let (count, page) ← (s.plan (← queryOf? query)).mapError .refused
          return .rows count page

/-! ### Writing -/

namespace Explanation

/-- Every statement under its label. -/
def labelled : Explanation → List (String × Statement)
  | rows count page => [("count", count), ("page", page)]
  | row lookup => [("lookup", lookup)]

/-- The values of the placeholders from a number on, a line for each. -/
def valueLines (index : Nat) : List Param → String
  | [] => ""
  | p :: ps =>
      "--   " ++ placeholder index ++ " = " ++ p.literal ++ "\n" ++ valueLines (index + 1) ps

/-- A statement with notes: its label, its values, and how it reads with the values in place. -/
def noted (label : String) (s : Statement) : String :=
  "-- " ++ label ++ "\n" ++ s.sql ++ "\n" ++ valueLines 1 s.params ++
    "-- inlined: " ++ s.display ++ "\n\n"

/-- The statements with notes. -/
def text (e : Explanation) : String := String.join (e.labelled.map fun (l, s) => noted l s)

/-- A statement as a JSON object. -/
def entry (label : String) (s : Statement) : Json :=
  .object [("statement", .str label), ("sql", .str s.sql),
    ("params", .arr (s.params.map fun p => .str p.literal)), ("inlined", .str s.display)]

/-- The statements as a JSON list. -/
def json (e : Explanation) : String :=
  (Json.arr (e.labelled.map fun (l, s) => entry l s)).pretty ++ "\n"

end Explanation

end Circulation
