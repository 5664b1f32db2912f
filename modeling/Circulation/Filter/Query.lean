/-
**The query of a request: filters and other parameters.**

The key `filter[name]` asks for equality, `filter[name][operator]` for another comparison; neither
part is empty, and no line break stands in them.  The name ends at the first place where an operator
can follow it.  Every other key is a parameter.

Main definitions:

* `Filter.Descriptor` — what a filter asks for;
* `Filter.Target`, `Filter.Target.ofKey` — what a key stands for;
* `Query`, `Query.ofPairs` — a query, and the one that keys and values make; of several keys with
  one target the last counts.
-/

import Circulation.Filter.Operator
import Circulation.Page

set_option relaxedAutoImplicit false
set_option autoImplicit false

namespace Circulation

namespace Filter

/-! ### Filters -/

/-- What a filter asks for. -/
inductive Descriptor where
  | equality (value : String)
  | operator (op : Operator) (value : String)
deriving DecidableEq

namespace Descriptor

/-- The operator of a filter. -/
def op : Descriptor → Operator
  | equality _ => .builtin .eq
  | operator op _ => op

/-- The value of a filter. -/
def value : Descriptor → String
  | equality value => value
  | operator _ value => value

/-- The filter with a token, or none, and a value. -/
def ofToken (token : Option String) (value : String) : Descriptor :=
  match token with
  | none => equality value
  | some token => operator (.ofToken token) value

end Descriptor

/-! ### Keys -/

/-- What a key stands for. -/
inductive Target where
  /-- A filter on a name, with the token of its operator. -/
  | filter (name : String) (token : Option String)
  /-- A parameter. -/
  | param (key : String)
deriving DecidableEq

/-- What a filter key begins with. -/
def keyOpening : List Char := ['f', 'i', 'l', 't', 'e', 'r', '[']

/-- What stands between a name and its operator. -/
def between : List Char := [']', '[']

/-- The part of a key inside its outer brackets, if it is a filter key. -/
def insideBrackets? (key : List Char) : Option (List Char) :=
  match keyOpening.isPrefixOf? key with
  | none => none
  | some rest =>
      if rest.getLast? = some ']' then
        let inside := rest.dropLast
        if inside.isEmpty || inside.contains '\n' then none else some inside
      else none

/-- Name and token inside the brackets of a filter key. -/
def splitToken : List Char → List Char × Option (List Char)
  | [] => ([], none)
  | c :: cs =>
      match Text.cutFirst between cs with
      | some (name, t :: token) => (c :: name, some (t :: token))
      | _ => (c :: cs, none)

/-- What a key stands for. -/
def Target.ofKey (key : String) : Target :=
  match insideBrackets? key.toList with
  | none => .param key
  | some inside =>
      let p := splitToken inside
      .filter (String.ofList p.1) (p.2.map String.ofList)

end Filter

/-! ### Queries -/

/-- A query: filters by the name they are on, and all other parameters. -/
structure Query where
  filters : Dict Filter.Descriptor
  params : Dict String

namespace Query

/-- The query that asks for nothing. -/
def empty : Query := ⟨.empty, .empty⟩

/-- A query with one more key and its value. -/
def insert (q : Query) (key value : String) : Query :=
  match Filter.Target.ofKey key with
  | .filter name token =>
      { q with filters := q.filters.insert name (.ofToken token value) }
  | .param key => { q with params := q.params.insert key value }

/-- The query that keys and values make. -/
def ofPairs (pairs : List (String × String)) : Query :=
  pairs.foldl (fun q p => q.insert p.1 p.2) empty

/-- The page that a query asks for. -/
def page (q : Query) : Page := Page.ofParams q.params

end Query

end Circulation
