/-
**Looking at the settings of the service.**

The settings in force can be shown, their file can be told, and they can be checked.  A password is
never shown.

Main definitions:

* `redactUrl` — an address with its password hidden;
* `Inspection` — what to look at;
* `Inspection.run` — what is printed, or what is wrong.
-/

import Circulation.Config.Settings
import Circulation.Text.Cut

set_option relaxedAutoImplicit false
set_option autoImplicit false

namespace Circulation

/-! ### Passwords -/

/-- Credentials, with stars for a password if there is one. -/
def hidePassword (credentials : List Char) : List Char :=
  match Text.cutFirst [':'] credentials with
  | some (user, _) => user ++ ":***".toList
  | none => credentials

/-- An address after its scheme: credentials stand before the last at sign. -/
def hideCredentials (rest : List Char) : List Char :=
  match Text.cutLast '@' rest with
  | some (credentials, host) => hidePassword credentials ++ '@' :: host
  | none => rest

/-- An address with its password hidden. -/
def redactUrl (url : String) : String :=
  match Text.cutFirst "://".toList url.toList with
  | some (scheme, rest) => String.ofList (scheme ++ "://".toList ++ hideCredentials rest)
  | none => url

/-! ### Looking -/

/-- What to look at. -/
inductive Inspection where
  /-- The settings in force, as a file. -/
  | shown
  /-- Where the file of the settings is. -/
  | path
  /-- Whether the service could begin. -/
  | valid
deriving DecidableEq

/-- What is wrong with settings, and whether it was found out while they were loaded. -/
structure InspectionFault where
  fault : ConfigFault
  loading : Bool
deriving DecidableEq

/-- What is said first about a fault. -/
def InspectionFault.headline (f : InspectionFault) : String :=
  if f.loading then "Failed to load configuration" else f.fault.message

namespace Inspection

/-- The settings, or what is wrong with loading them. -/
def settings (file : ConfigFile) (env : Environment) :
    Except InspectionFault Settings :=
  (Settings.load file env).mapError (⟨·, true⟩)

/-- What is printed, or what is wrong. -/
def run (path : String) (file : ConfigFile) (env : Environment) :
    Inspection → Except InspectionFault String
  | .path => .ok (path ++ "\n")
  | .shown => do
      let s ← settings file env
      return { s with databaseUrl := s.databaseUrl.map redactUrl }.render
  | .valid => do
      let s ← settings file env
      let _ ← s.database.mapError (⟨·, false⟩)
      return "configuration OK\n"

end Inspection

end Circulation
