/-
**Reading JSON values off tokens.**

One pass over the tokens with a stack of open brackets.  The pass is the same whether it builds a
value or merely checks that one is there, so it is written once, over the way results are built.

Main definitions:

* `Builder` — what a pass builds;
* `readWith` — the result of the first value among the tokens, and the tokens behind it;
* `readValue`, `skipValue` — building a value, and building nothing;
* `Json.parse?` — the value of a whole text.
-/

import Circulation.Json.Token

set_option relaxedAutoImplicit false
set_option autoImplicit false

namespace Circulation

/-! ### What a pass builds -/

/-- What a pass builds: results for scalars and names (none where they denote nothing), and how
results are put together; `levels` is how many brackets may be open, if there is a limit. -/
structure Builder (α : Type) where
  scalar : Token → Option α
  name : List TextPiece → Option String
  array : List α → α
  object : List (String × α) → α
  levels : Option Nat

/-- A bracket that is open, with what stands in it so far, the latest first. -/
inductive Frame (α : Type) where
  | array (items : List α)
  | object (fields : List (String × α)) (name : String)

/-- What the next token may be. -/
inductive Expected where
  /-- A value. -/
  | value
  /-- A value, or the end of the array that was just opened. -/
  | item
  /-- A name of the object whose fields so far are given. -/
  | name
  /-- A name, or the end of the object that was just opened. -/
  | field
  /-- The colon behind a name. -/
  | colon (name : String)
  /-- A comma or a closing bracket. -/
  | separator

/-- Where a pass stands. -/
structure Pass (α : Type) where
  expected : Expected
  /-- Fields of the object whose next name is awaited. -/
  fields : List (String × α)
  stack : List (Frame α)

namespace Pass

variable {α : Type}

/-- A value is complete: the pass ends with it, or it goes into the innermost bracket. -/
def complete (v : α) : List (Frame α) → α ⊕ Pass α
  | [] => .inl v
  | .array items :: rest => .inr ⟨.separator, [], .array (v :: items) :: rest⟩
  | .object fields name :: rest => .inr ⟨.separator, [], .object ((name, v) :: fields) name :: rest⟩

/-- Whether one more bracket may be opened. -/
def mayOpen (b : Builder α) (open? : Nat) : Bool :=
  match b.levels with
  | none => true
  | some n => decide (open? < n)

/-- A value begins. -/
def begin (b : Builder α) (stack : List (Frame α)) (open? : Nat) (t : Token) :
    Option (α ⊕ Pass α) :=
  match t with
  | .openArray => if mayOpen b open? then some (.inr ⟨.item, [], .array [] :: stack⟩) else none
  | .openObject => if mayOpen b open? then some (.inr ⟨.field, [], stack⟩) else none
  | t => (b.scalar t).map fun v => complete v stack

/-- One token. -/
def step (b : Builder α) (p : Pass α) (t : Token) : Option (α ⊕ Pass α) :=
  match p.expected, t with
  | .value, t => begin b p.stack p.stack.length t
  | .item, .closeArray => some (complete (b.array []) p.stack.tail)
  | .item, t => begin b p.stack p.stack.length t
  | .field, .closeObject => some (complete (b.object []) p.stack)
  | .field, .text ps => (b.name ps).map fun k => .inr ⟨.colon k, p.fields, p.stack⟩
  | .name, .text ps => (b.name ps).map fun k => .inr ⟨.colon k, p.fields, p.stack⟩
  | .colon k, .colon => some (.inr ⟨.value, [], .object p.fields k :: p.stack⟩)
  | .separator, .comma =>
      match p.stack with
      | .array items :: rest => some (.inr ⟨.value, [], .array items :: rest⟩)
      | .object fields _ :: rest => some (.inr ⟨.name, fields, rest⟩)
      | [] => none
  | .separator, .closeArray =>
      match p.stack with
      | .array items :: rest => some (complete (b.array items.reverse) rest)
      | _ => none
  | .separator, .closeObject =>
      match p.stack with
      | .object fields _ :: rest => some (complete (b.object fields.reverse) rest)
      | _ => none
  | _, _ => none

/-- The result of the first value, and the tokens behind it. -/
def run (b : Builder α) (p : Pass α) : List Token → Option (α × List Token)
  | [] => none
  | t :: ts =>
      match step b p t with
      | some (.inl v) => some (v, ts)
      | some (.inr p) => run b p ts
      | none => none

end Pass

/-- The result of the first value among the tokens, and the tokens behind it. -/
def readWith {α : Type} (b : Builder α) (ts : List Token) : Option (α × List Token) :=
  Pass.run b ⟨.value, [], []⟩ ts

/-! ### Building values -/

/-- How many brackets a document may have open at a time. -/
def maxLevels : Nat := 127

/-- The value of a scalar token. -/
def Json.ofScalar? : Token → Option Json
  | .null => some .null
  | .bool b => some (.bool b)
  | .number n => n.value?.map .num
  | .text ps => (textValue? ps).map fun cs => .str (String.ofList cs)
  | _ => none

/-- Building values, with `open?` brackets open around them. -/
def Json.builder (open? : Nat) : Builder Json where
  scalar := Json.ofScalar?
  name := fun ps => (textValue? ps).map String.ofList
  array := .arr
  object := fun fields => .ofDict (Dict.ofList fields)
  levels := some (maxLevels - open?)

/-- Read a value inside `open?` open brackets. -/
def readValue (open? : Nat) (ts : List Token) : Option (Json × List Token) :=
  readWith (Json.builder open?) ts

/-! ### Passing over values -/

/-- Passing over a value: any number, any text, any depth. -/
def skipping : Builder Unit where
  scalar
    | .null | .bool _ | .number _ | .text _ => some ()
    | _ => none
  name := fun _ => some ""
  array := fun _ => ()
  object := fun _ => ()
  levels := none

/-- Pass over a value. -/
def skipValue (ts : List Token) : Option (List Token) := (readWith skipping ts).map (·.2)

/-! ### A whole text -/

/-- The value that a text holds, and nothing else. -/
def Json.parse? (s : String) : Option Json :=
  match readValue 0 (tokens s) with
  | some (v, []) => some v
  | _ => none

end Circulation
