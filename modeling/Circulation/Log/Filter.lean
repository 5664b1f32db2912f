/-
**Which log messages are kept.**

A filter is a list of directives with commas between them.  A directive is a threshold, a source, or
both with an equals sign between them; a message follows the directive with the longest source that
its own source begins with, and is kept if its level reaches the threshold.

Main definitions:

* `LogLevel`, `LogMessage` — messages and how grave they are;
* `LogDirective`, `LogFilter` — directives;
* `LogFilter.ofText?` — the filter that a text writes;
* `LogFilter.keeps` — whether a message is kept.
-/

import Circulation.Text.Case
import Circulation.Text.Cut
import Circulation.Text.Letter

set_option relaxedAutoImplicit false
set_option autoImplicit false

namespace Circulation

/-! ### Messages -/

/-- How grave a message is. -/
inductive LogLevel where
  | error
  | warn
  | info
  | debug
  | trace
deriving DecidableEq

namespace LogLevel

/-- The place of a level, the gravest first. -/
def rank : LogLevel → Nat
  | error => 1
  | warn => 2
  | info => 3
  | debug => 4
  | trace => 5

/-- The name of a level. -/
def name : LogLevel → String
  | error => "ERROR"
  | warn => "WARN"
  | info => "INFO"
  | debug => "DEBUG"
  | trace => "TRACE"

/-- All levels, the gravest first. -/
def all : List LogLevel := [error, warn, info, debug, trace]

/-- The level with a rank. -/
def ofRank? (n : Nat) : Option LogLevel := all.find? fun l => l.rank == n

end LogLevel

/-- A message of the program, with the part of the program that it comes from. -/
structure LogMessage where
  level : LogLevel
  source : String
  text : String
deriving DecidableEq

/-! ### Directives -/

/-- The least grave level that is kept; without one nothing is kept. -/
abbrev LogThreshold := Option LogLevel

/-- Whether a level reaches a threshold. -/
def LogThreshold.admits (t : LogThreshold) (l : LogLevel) : Bool :=
  match t with
  | some m => decide (l.rank ≤ m.rank)
  | none => false

/-- A directive for the messages of some sources. -/
structure LogDirective where
  /-- What a source must begin with. -/
  source : List Char
  threshold : LogThreshold
deriving DecidableEq

/-- The directives of a filter. -/
structure LogFilter where
  directives : List LogDirective
deriving DecidableEq

namespace LogFilter

/-- The filter that keeps the messages of all sources up to a threshold. -/
def all (t : LogThreshold) : LogFilter := ⟨[⟨[], t⟩]⟩

/-- The directive that a source follows: the one with the longest beginning of it, and the last one
among equals. -/
def directive? (source : List Char) : List LogDirective → Option LogDirective
  | [] => none
  | d :: ds =>
      match directive? source ds with
      | some e =>
          if d.source.isPrefixOf source && decide (e.source.length < d.source.length) then some d
          else some e
      | none => if d.source.isPrefixOf source then some d else none

/-- Whether a message is kept. -/
def keeps (f : LogFilter) (m : LogMessage) : Bool :=
  (directive? m.source.toList f.directives).any fun d => d.threshold.admits m.level

/-! ### Reading -/

/-- The threshold that a text writes: a level by its name or its rank, or none at all. -/
def threshold? (cs : List Char) : Option LogThreshold :=
  if Text.sameIgnoringAsciiCase (String.ofList cs) "off" ∨ cs = ['0'] then some none
  else
    match LogLevel.all.find? fun l => Text.sameIgnoringAsciiCase (String.ofList cs) l.name with
    | some l => some (some l)
    | none =>
        match cs with
        | [c] => (LogLevel.ofRank? (c.toNat - '0'.toNat)).map some
        | _ => none

/-- Whether a character may stand in a source. -/
def isSourceChar (c : Char) : Bool := Text.isAlphanumeric c || ['_', ':', '-'].contains c

/-- Whether a source is in truth a threshold: its name, or its rank with zeros before it. -/
def isThreshold (cs : List Char) : Bool :=
  (threshold? cs).isSome ||
    (cs.all Char.isDigit && !cs.isEmpty && (threshold? (cs.dropWhile (· == '0'))).isSome) ||
    (cs.all (· == '0') && !cs.isEmpty)

/-- The sources or spans that a directive begins with, at most two, and what follows them. -/
inductive LogScope where
  | source (name : List Char)
  | span (name : List Char)
deriving DecidableEq

/-- The scope at the front of a directive, and what follows it. -/
def scope? : List Char → Option (LogScope × List Char)
  | '[' :: cs => (Text.cutFirst [']'] cs).map fun (name, rest) => (.span name, rest)
  | cs =>
      if (cs.takeWhile isSourceChar).isEmpty then none
      else some (.source (cs.takeWhile isSourceChar), cs.dropWhile isSourceChar)

/-- The scopes at the front of a directive, and what follows them. -/
def scopes? (cs : List Char) : Option (List LogScope × List Char) :=
  (scope? cs).map fun (s, rest) =>
    match scope? rest with
    | some (t, rest) => ([s, t], rest)
    | none => ([s], rest)

/-- The threshold behind scopes; without one everything is kept. -/
def limit? : List Char → Option LogThreshold
  | [] | ['='] => some (some .trace)
  | '=' :: cs => threshold? cs
  | _ => none

/-- The source that scopes name. -/
def sourceOf (scopes : List LogScope) : List Char :=
  (scopes.findSome? fun
    | .source name => if isThreshold name then none else some name
    | .span _ => none).getD []

/-- Whether scopes name a span. -/
def namesSpan (scopes : List LogScope) : Bool :=
  scopes.any fun
    | .source _ => false
    | .span name => !name.isEmpty

/-- The directives that a piece of a filter writes.  No message comes from inside a span, so that a
directive for a span says nothing. -/
def readPiece? (cs : List Char) : Option (List LogDirective) :=
  match threshold? cs with
  | some t => some [⟨[], t⟩]
  | none => do
      let (scopes, rest) ← scopes? cs
      let t ← limit? rest
      return if namesSpan scopes then [] else [⟨sourceOf scopes, t⟩]

/-- The filter that a text writes.  One without any directive keeps errors. -/
def ofText? (text : String) : Option LogFilter :=
  let pieces := (text.toList.splitOnP (· == ',')).filter fun piece => !piece.isEmpty
  if pieces.isEmpty then some (all (some .error))
  else (pieces.mapM readPiece?).map fun l => ⟨l.flatten⟩

end LogFilter

end Circulation
