/-
**Settings of the service.**

Settings come from a file, and variables of the environment go before the file.  What neither tells
is as usual.

Main definitions:

* `Settings`, `Settings.usual` — the settings, and those that nobody chose;
* `Settings.ofToml?` — the settings of a file;
* `Settings.override` — the settings with variables put over them;
* `ConfigFile`, `Settings.load` — where settings come from, and loading them;
* `ConfigFault` — what can be wrong with them;
* `Settings.render` — the settings as a file.
-/

import Circulation.Calendar.Zone
import Circulation.Config.Address
import Circulation.Config.Environment
import Circulation.Duration
import Circulation.Toml.Reader

set_option relaxedAutoImplicit false
set_option autoImplicit false

namespace Circulation

/-! ### Settings -/

/-- The settings of the service. -/
structure Settings where
  databaseUrl : Option String
  maxConnections : UInt32
  bindAddress : Address
  /-- The address that links begin with. -/
  baseUrl : String
  /-- The name of the zone whose day new rows get. -/
  timeZone : String
  /-- The time limit of a statement, in seconds. -/
  timeoutSeconds : UInt64

/-- What can be wrong with settings. -/
inductive ConfigFault where
  /-- The file cannot be read. -/
  | unreadable
  /-- The file is no TOML, or a setting has another type. -/
  | invalid
  | unknownZone (name : String)
  | noDatabase
deriving DecidableEq

/-- What is said about a fault. -/
def ConfigFault.message : ConfigFault → String
  | .unreadable => "failed to read config file"
  | .invalid => "invalid config TOML"
  | .unknownZone name => s!"unknown time zone '{name}'"
  | .noDatabase => "database_url is not set (config file or DATABASE_URL)"

namespace Settings

/-- The settings that nobody chose. -/
def usual : Settings where
  databaseUrl := none
  maxConnections := 5
  bindAddress := .octets ⟨127, 0, 0, 1⟩ 3030
  baseUrl := "http://127.0.0.1:3030"
  timeZone := "America/Los_Angeles"
  timeoutSeconds := 30

/-! ### The file -/

/-- The setting of a name, as it is before if the file does not have it. -/
def setting {α : Type} (t : Toml.Table) (name : String) (before : α)
    (read : Toml.Node → Option α) : Option α :=
  match t.get? name with
  | none => some before
  | some v => read v

/-- The text that a value is. -/
def textOf? : Toml.Node → Option String
  | .text s => some s
  | _ => none

/-- The whole number below a bound that a value is. -/
def numberOf? (bound : Nat) : Toml.Node → Option Nat
  | .literal (.integer i) =>
      if 0 ≤ i.toInt ∧ i.toInt < bound then some i.toInt.toNat else none
  | _ => none

/-- The address that a value is. -/
def addressOf? (v : Toml.Node) : Option Address := (textOf? v).bind Address.parse?

/-- The settings of a file; names that are no settings are passed over. -/
def ofTable? (t : Toml.Table) : Option Settings := do
  let databaseUrl ← setting t "database_url" usual.databaseUrl fun v => (textOf? v).map some
  let maxConnections ← setting t "max_connections" usual.maxConnections fun v =>
    (numberOf? UInt32.size v).map UInt32.ofNat
  let bindAddress ← setting t "bind_addr" usual.bindAddress addressOf?
  let baseUrl ← setting t "api_base_url" usual.baseUrl textOf?
  let timeZone ← setting t "time_zone" usual.timeZone textOf?
  let timeoutSeconds ← setting t "statement_timeout_secs" usual.timeoutSeconds fun v =>
    (numberOf? UInt64.size v).map UInt64.ofNat
  return ⟨databaseUrl, maxConnections, bindAddress, baseUrl, timeZone, timeoutSeconds⟩

/-- The settings of the text of a file. -/
def ofToml? (text : String) : Option Settings := (Toml.parse? text).bind ofTable?

/-! ### The environment -/

/-- The settings with variables of the environment put over them. -/
def override (s : Settings) (env : Environment) : Settings :=
  { s with
    databaseUrl := env "DATABASE_URL" <|> s.databaseUrl
    baseUrl := (env "LIBRARY_API_BASE_URL").getD s.baseUrl
    timeZone := (env "LIBRARY_TIME_ZONE").getD s.timeZone }

/-- The zone of the settings. -/
def zone (s : Settings) : Except ConfigFault TimeZone :=
  match TimeZone.ofName? s.timeZone with
  | some zone => .ok zone
  | none => .error (.unknownZone s.timeZone)

/-- The address of the database. -/
def database (s : Settings) : Except ConfigFault String :=
  match s.databaseUrl with
  | some url => .ok url
  | none => .error .noDatabase

/-- The time limit of a statement, never less than a second. -/
def timeout (s : Settings) : Duration := .ofSeconds (max s.timeoutSeconds.toNat 1)

end Settings

/-- The file of the settings, as far as it can be read. -/
inductive ConfigFile where
  /-- Nobody named a file, and the usual one is not there. -/
  | absent
  /-- There is a file to read, but it cannot be read. -/
  | unreadable
  | content (text : String)

namespace Settings

/-- The settings of a file and the environment; their zone must be known. -/
def load (file : ConfigFile) (env : Environment) : Except ConfigFault Settings :=
  do
  let s ←
    match file with
    | .absent => pure usual
    | .unreadable => throw .unreadable
    | .content text =>
        match ofToml? text with
        | some s => pure s
        | none => throw .invalid
  let s := s.override env
  let _ ← s.zone
  return s

/-! ### Writing -/

/-- The settings as a file. -/
def render (s : Settings) : String :=
  let text (name value : String) : String := name ++ " = " ++ Toml.quote value ++ "\n"
  let number (name : String) (value : Nat) : String := name ++ " = " ++ value.repr ++ "\n"
  (s.databaseUrl.elim "" (text "database_url")) ++
    number "max_connections" s.maxConnections.toNat ++
    text "bind_addr" s.bindAddress.display ++
    text "api_base_url" s.baseUrl ++
    text "time_zone" s.timeZone ++
    number "statement_timeout_secs" s.timeoutSeconds.toNat

end Settings

end Circulation
