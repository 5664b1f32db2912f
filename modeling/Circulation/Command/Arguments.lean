/-
**The arguments of the command line.**

Arguments are read from left to right.  A command may be followed by a command of its own; switches
belong to the command that they stand behind, and some belong to all commands.  The value of a
switch follows an equals sign, or is the next argument.  Asking for help or for the version ends the
reading at once; anything wrong before that is a misuse.

Main definitions:

* `Level` — the command that is being read, with its switches and its commands;
* `Switch` — what can be switched, and how it is written;
* `Invocation`, `Command` — what the arguments ask for;
* `CommandLine`, `CommandLine.read` — what the arguments are, and reading them.
-/

import Circulation.Command.Inspect
import Circulation.Config.Address
import Circulation.Text.Cut

set_option relaxedAutoImplicit false
set_option autoImplicit false

namespace Circulation

/-! ### Switches -/

/-- What can be switched. -/
inductive Switch where
  | debug
  /-- The file of the settings. -/
  | settings
  | help
  | version
  /-- The address to listen on. -/
  | bind
  /-- Answer to every origin. -/
  | openCors
  /-- The address of the database. -/
  | database
  /-- The identifier of a look-up. -/
  | id
  | json
deriving DecidableEq

namespace Switch

/-- The word of a switch. -/
def long : Switch → String
  | debug => "debug"
  | settings => "config"
  | help => "help"
  | version => "version"
  | bind => "bind"
  | openCors => "cors-permissive"
  | database => "database-url"
  | id => "id"
  | json => "json"

/-- The letter of a switch. -/
def short? : Switch → Option Char
  | help => some 'h'
  | version => some 'V'
  | bind => some 'b'
  | _ => none

/-- Whether a switch has a value. -/
def hasValue : Switch → Bool
  | settings | bind | database | id => true
  | _ => false

/-- Whether a switch takes a value: a file has a name, and an address is one. -/
def admits (value : String) : Switch → Bool
  | settings => value ≠ ""
  | bind => (Address.parse? value).isSome
  | _ => true

end Switch

/-! ### Commands -/

/-- The command that is being read. -/
inductive Level where
  | root
  | serve
  | explain
  | config
  | inspect (what : Inspection)
deriving DecidableEq

namespace Level

/-- The switches that all commands have. -/
def shared : List Switch := [.debug, .settings, .help]

/-- The switches of a command. -/
def switches : Level → List Switch
  | root => shared ++ [.version]
  | serve => shared ++ [.bind, .openCors, .database]
  | explain => shared ++ [.id, .json]
  | config | inspect _ => shared

/-- The commands of a command. -/
def commands : Level → List (String × Level)
  | root => [("serve", serve), ("explain", explain), ("config", config)]
  | config => [("show", inspect .shown), ("path", inspect .path), ("validate", inspect .valid)]
  | serve | explain | inspect _ => []

/-- How many words a command takes. -/
def words : Level → Nat
  | explain => 2
  | _ => 0

/-- The command with a name. -/
def command? (l : Level) (name : String) : Option Level :=
  (l.commands.find? fun c => c.1 == name).map (·.2)

/-- The switch with a word. -/
def long? (l : Level) (word : String) : Option Switch := l.switches.find? fun s => s.long == word

/-- The switch with a letter. -/
def short? (l : Level) (letter : Char) : Option Switch :=
  l.switches.find? fun s => s.short? == some letter

/-- How a command is written. -/
def usage : Level → String
  | root => "Usage: libraryctl [OPTIONS] <COMMAND>\n"
  | serve => "Usage: libraryctl serve [OPTIONS]\n"
  | explain => "Usage: libraryctl explain [OPTIONS] <COLLECTION> [QUERY]\n"
  | config => "Usage: libraryctl config [OPTIONS] <COMMAND>\n"
  | inspect .shown => "Usage: libraryctl config show [OPTIONS]\n"
  | inspect .path => "Usage: libraryctl config path [OPTIONS]\n"
  | inspect .valid => "Usage: libraryctl config validate [OPTIONS]\n"

end Level

/-- A command with what it needs. -/
inductive Command where
  | serve (bind : Option Address) (openCors : Bool) (database : Option String)
  | explain (collection query : String) (id : Option String) (asJson : Bool)
  | inspect (what : Inspection)

/-- What arguments ask for. -/
structure Invocation where
  debug : Bool
  /-- The file of the settings, if one is named. -/
  settings : Option String
  command : Command

/-- What arguments are. -/
inductive CommandLine where
  | invocation (i : Invocation)
  | help (level : Level)
  | version
  | misuse

namespace CommandLine

/-! ### Reading a command -/

/-- A command as far as it has been read. -/
structure Reading where
  level : Level
  /-- The switches with their values; a switch without a value has an empty one. -/
  given : List (Switch × String)
  words : List String
  /-- The last switch while it may still get a value, and the value. -/
  pending : Option (Switch × Option String)

namespace Reading

/-- A command of which nothing has been read. -/
def ofLevel (level : Level) : Reading := ⟨level, [], [], none⟩

/-- The value of a switch. -/
def value? (r : Reading) (s : Switch) : Option String :=
  (r.given.find? fun g => g.1 == s).map (·.2)

/-- Give a switch a value; no switch is given twice. -/
def give (r : Reading) (s : Switch) (value : String) : Option Reading :=
  if s.admits value && (r.value? s).isNone then some { r with given := r.given ++ [(s, value)] }
  else none

/-- Have done with the last switch. -/
def settle (r : Reading) : Option Reading :=
  match r.pending with
  | none => some r
  | some (_, none) => none
  | some (s, some value) => { r with pending := none }.give s value

/-- One more word. -/
def word (r : Reading) (w : String) : Option Reading := do
  let r ← r.settle
  if r.words.length < r.level.words then some { r with words := r.words ++ [w] } else none

end Reading

/-! ### Reading arguments -/

/-- The arguments as far as they have been read. -/
structure Reader where
  /-- The commands before the last one, the innermost first. -/
  outer : List Reading
  last : Reading
  /-- Whether all that follows is words. -/
  onlyWords : Bool

namespace Reader

/-- Nothing has been read. -/
def start : Reader := ⟨[], .ofLevel .root, false⟩

/-- Go on with the last command, or end in a misuse. -/
def proceed (r : Reader) (last : Option Reading) : Except CommandLine Reader :=
  match last with
  | some last => .ok { r with last }
  | none => .error .misuse

/-- A switch without a value. -/
def flag (r : Reader) (s : Switch) : Except CommandLine Reader :=
  match r.last.settle with
  | none => .error .misuse
  | some last =>
      match s with
      | .help => .error (.help last.level)
      | .version => .error .version
      | s => r.proceed (last.give s "")

/-- A switch with its value in the same argument. -/
def attached (r : Reader) (s : Switch) (value : String) : Except CommandLine Reader :=
  r.proceed (r.last.settle.bind fun last => last.give s value)

/-- A switch whose value is the next argument. -/
def awaiting (r : Reader) (s : Switch) : Except CommandLine Reader :=
  r.proceed (r.last.settle.map fun last => { last with pending := some (s, none) })

/-- A switch by its word, with a value behind an equals sign. -/
def long (r : Reader) (cs : List Char) : Except CommandLine Reader :=
  match Text.cutFirst ['='] cs with
  | some (word, value) =>
      match r.last.level.long? (String.ofList word) with
      | some s => if s.hasValue then r.attached s (String.ofList value) else .error .misuse
      | none => .error .misuse
  | none =>
      match r.last.level.long? (String.ofList cs) with
      | some s => if s.hasValue then r.awaiting s else r.flag s
      | none => .error .misuse

/-- Switches by their letters; what follows a letter with a value is the value. -/
def letters (r : Reader) : List Char → Except CommandLine Reader
  | [] => .ok r
  | c :: cs =>
      match r.last.level.short? c with
      | none => .error .misuse
      | some s =>
          if s.hasValue then
            match cs with
            | [] => r.awaiting s
            | '=' :: value => r.attached s (String.ofList value)
            | value => r.attached s (String.ofList value)
          else
            match r.flag s with
            | .ok r => letters r cs
            | .error e => .error e

/-- The command that help is asked for; help on help is help on the command itself. -/
def helpOn (level : Level) : List String → CommandLine
  | [] => .help level
  | name :: names =>
      match level.command? name with
      | some l => helpOn l names
      | none =>
          if name = "help" ∧ level.commands ≠ [] ∧ names = [] then .help level else .misuse

/-- Whether an argument may be the value of the switch before it. -/
def isValue (arg : String) : Bool := arg == "-" || arg.toList.head? != some '-'

/-- One more argument, with the arguments after it. -/
def step (r : Reader) (arg : String) (rest : List String) : Except CommandLine Reader :=
  if r.onlyWords then r.proceed (r.last.word arg)
  else
    match r.last.pending with
    | some (s, none) =>
        if isValue arg then .ok { r with last := { r.last with pending := some (s, some arg) } }
        else .error .misuse
    | _ =>
        match r.last.level.command? arg with
        | some level => .ok ⟨r.last :: r.outer, .ofLevel level, false⟩
        | none =>
            if arg = "help" ∧ r.last.level.commands ≠ [] then .error (helpOn r.last.level rest)
            else
              match arg.toList with
              | ['-', '-'] => .ok { r with onlyWords := true }
              | '-' :: '-' :: cs => r.long cs
              | '-' :: c :: cs => r.letters (c :: cs)
              | _ => r.proceed (r.last.word arg)

/-- All arguments. -/
def steps (r : Reader) : List String → Except CommandLine Reader
  | [] => .ok r
  | arg :: rest =>
      match r.step arg rest with
      | .ok r => steps r rest
      | .error e => .error e

/-! ### What was read -/

/-- The command of a reading that is complete. -/
def command? (r : Reading) : Option Command :=
  match r.level, r.words with
  | .serve, _ =>
      some (.serve ((r.value? .bind).bind Address.parse?) (r.value? .openCors).isSome
        (r.value? .database))
  | .explain, [collection] =>
      some (.explain collection "" (r.value? .id) (r.value? .json).isSome)
  | .explain, [collection, query] =>
      some (.explain collection query (r.value? .id) (r.value? .json).isSome)
  | .inspect what, _ => some (.inspect what)
  | _, _ => none

/-- Whether a file that the environment names can stand in for every command that names none. -/
def admitsFile (readings : List Reading) (file : Option String) : Bool :=
  match file with
  | some file => readings.all fun r => (r.value? .settings).isSome || Switch.settings.admits file
  | none => true

/-- What the arguments ask for.  The file of the settings is the one that the innermost command
names, and otherwise the one that the environment names. -/
def finish? (r : Reader) (file : Option String) : Option Invocation := do
  let readings ← (r.last :: r.outer).mapM Reading.settle
  guard (admitsFile readings file)
  let last ← readings.head?
  let command ← command? last
  return ⟨readings.any fun r => (r.value? .debug).isSome,
    readings.findSome? (·.value? .settings) <|> file, command⟩

end Reader

/-- What arguments are, given the file of the settings that the environment names. -/
def read (file : Option String) (arguments : List String) : CommandLine :=
  match Reader.start.steps arguments with
  | .error e => e
  | .ok r =>
      match r.finish? file with
      | some i => .invocation i
      | none => .misuse

end CommandLine

end Circulation
