/-
**The program behind the command line.**

What the program does depends on its arguments, on the variables of the environment and on a few
files; it answers with an exit code, with what it prints, and with its log.  Nothing here reaches a
store: the connection that serving begins with is never made.

Main definitions:

* `Surroundings` — what the program can ask about;
* `Surroundings.environment` — the variables, those of the file `.env` among them;
* `Report` — what the program answers;
* `Invocation.outcome` — what an invocation prints or fails with, and what it logs;
* `run` — the whole program;
* `namesNeeded`, `filesNeeded` — the variables and files that the answer depends on.
-/

import Circulation.Command.Arguments
import Circulation.Command.Explain
import Circulation.Config.EnvFile
import Circulation.Database.Location
import Circulation.Log.Filter

set_option relaxedAutoImplicit false
set_option autoImplicit false

namespace Circulation

/-! ### Surroundings -/

/-- What the program can ask about. -/
structure Surroundings where
  arguments : List String
  /-- The variables that are set from outside. -/
  inherited : Environment
  file : String → ConfigFile

/-- The file whose assignments come before everything else. -/
def envFile : String := ".env"

/-- The assignments of a file, if it can be read. -/
def ConfigFile.assignments : ConfigFile → List Assignment
  | .content text => EnvFile.assignments text
  | .absent | .unreadable => []

/-- A file that must be there. -/
def ConfigFile.required : ConfigFile → ConfigFile
  | .absent => .unreadable
  | file => file

/-- A path below a directory. -/
def joinPath (directory path : String) : String :=
  if directory.toList.getLast? = some '/' then directory ++ path else directory ++ "/" ++ path

/-- The directory of the person who runs the program. -/
def homeOf (e : Environment) : String :=
  match e "HOME" with
  | none | some "" => "."
  | some home => home

/-- Where the settings are when nobody tells. -/
def usualPath (e : Environment) : String := joinPath (homeOf e) ".library-api/config.toml"

/-- The files that may hold passwords. -/
def passwordFiles (e : Environment) : List String :=
  (e "PGPASSFILE").toList ++ [joinPath (homeOf e) ".pgpass"]

namespace Surroundings

/-- The variables that are set, those of the file of assignments among them. -/
def environment (w : Surroundings) : Environment :=
  w.inherited.withDefaults (w.file envFile).assignments

/-- The file of the settings: one that is named must be there. -/
def settingsFile (w : Surroundings) (named : Option String) : ConfigFile :=
  match named with
  | some path => (w.file path).required
  | none => w.file (usualPath w.environment)

end Surroundings

/-! ### Messages -/

namespace LogMessage

/-- Filters have been compiled. -/
def compiled : LogMessage := ⟨.debug, "library_core::compile", "compiled filters"⟩

/-- The file of the settings has been read. -/
def loaded : LogMessage := ⟨.debug, "library_server::config", "loaded config file"⟩

/-- The service begins. -/
def starting : LogMessage := ⟨.info, "libraryctl::commands::serve", "starting library API"⟩

/-- A parameter of a location is passed over. -/
def stranger (name : String) : LogMessage :=
  ⟨.warn, "sqlx_postgres::options::parse", "ignoring unrecognized connect parameter " ++ name⟩

/-- A file that may hold passwords is missing, or others may look into it. -/
def passwordFile (path : String) (file : ConfigFile) : LogMessage :=
  match file with
  | .absent => ⟨.debug, "sqlx_postgres::options::pgpass", "no password file " ++ path⟩
  | _ => ⟨.warn, "sqlx_postgres::options::pgpass", "ignoring password file " ++ path⟩

end LogMessage

/-- The messages while the settings are loaded. -/
def settingsLog : ConfigFile → List LogMessage
  | .content _ => [.loaded]
  | .absent | .unreadable => []

/-- The messages while a request is explained. -/
def explainLog (collection query : String) (id : Option String) : List LogMessage :=
  match Schema.ofCollection? collection, id, queryOf? query with
  | some _, none, .ok q => if (conditionsOf q.filters).isOk then [.compiled] else []
  | _, _, _ => []

/-- The messages while a connection is looked for: passwords are looked up if none is told. -/
def connectLog (w : Surroundings) (url : String) : List LogMessage :=
  match Location.parse? url with
  | none => []
  | some l =>
      let e := w.environment
      let passwords :=
        if l.isUsable && !l.hasPassword && (e "PGPASSWORD").isNone then
          (passwordFiles e).map fun path => .passwordFile path (w.file path)
        else []
      l.strangers.map .stranger ++ passwords

/-! ### Answers -/

/-- What the program answers. -/
structure Report where
  exit : Nat
  output : String
  /-- What is said about a failure. -/
  error : Option String
  log : List LogMessage
deriving DecidableEq

namespace Invocation

/-- Serving, up to the connection: it is never made. -/
def serve (w : Surroundings) (file : ConfigFile) (database : Option String) :
    Except String String × List LogMessage :=
  match Settings.load file w.environment with
  | .error _ => (.error "Failed to load configuration", settingsLog file)
  | .ok s =>
      match database <|> s.databaseUrl with
      | none =>
          (.error "Set database_url in the config file, DATABASE_URL, or --database-url",
            settingsLog file)
      | some url =>
          (.error "Failed to create database pool",
            settingsLog file ++ .starting :: connectLog w url)

/-- What an invocation prints or fails with, and what it logs. -/
def outcome (w : Surroundings) (i : Invocation) : Except String String × List LogMessage :=
  match i.command with
  | .serve _ _ database => serve w (w.settingsFile i.settings) database
  | .explain collection query id asJson =>
      (((explain collection query id).mapError (·.message)).map fun e =>
          if asJson then e.json else e.text,
        explainLog collection query id)
  | .inspect .path => (.ok (i.settings.getD (usualPath w.environment) ++ "\n"), [])
  | .inspect what =>
      let file := w.settingsFile i.settings
      ((what.run "" file w.environment).mapError (·.headline), settingsLog file)

/-- The messages that are kept: the environment decides, or whether details are asked for. -/
def filter (e : Environment) (i : Invocation) : LogFilter :=
  ((e "RUST_LOG").bind LogFilter.ofText?).getD
    (.all (some (if i.debug then .debug else .info)))

/-- The answer to an invocation. -/
def report (w : Surroundings) (i : Invocation) : Report :=
  let (result, log) := i.outcome w
  let kept := log.filter (i.filter w.environment).keeps
  match result with
  | .ok output => ⟨0, output, none, kept⟩
  | .error message => ⟨1, "", some message, kept⟩

end Invocation

/-- What the arguments of the program are. -/
def Surroundings.commandLine (w : Surroundings) : CommandLine :=
  .read (w.environment "LIBRARY_API_CONFIG") w.arguments

/-- The whole program. -/
def run (w : Surroundings) : Report :=
  match w.commandLine with
  | .misuse => ⟨2, "", none, []⟩
  | .help level => ⟨0, level.usage, none, []⟩
  | .version => ⟨0, "libraryctl 0.3.0\n", none, []⟩
  | .invocation i => i.report w

/-! ### What the answer depends on -/

/-- The variables that the program may ask for, given the assignments of the file. -/
def namesNeeded (assignments : List Assignment) : List String :=
  ["HOME", "PGPASSFILE", "PGPASSWORD", "LIBRARY_API_CONFIG", "RUST_LOG", "DATABASE_URL",
    "LIBRARY_API_BASE_URL", "LIBRARY_TIME_ZONE"] ++ assignments.flatMap (·.names)

/-- The files that the program may ask for, given its arguments and all variables. -/
def filesNeeded (arguments : List String) (e : Environment) : List String :=
  let named :=
    match CommandLine.read (e "LIBRARY_API_CONFIG") arguments with
    | .invocation i => i.settings.toList
    | _ => []
  envFile :: usualPath e :: named ++ passwordFiles e

end Circulation
