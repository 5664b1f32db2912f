/-
**The command line.**

The variables and the files that the program needs are looked up first, then it is run, and what it
answers is printed.
-/

import Circulation.Command.Program

set_option relaxedAutoImplicit false
set_option autoImplicit false

namespace Circulation.Console

/-- A file, as far as it can be read. -/
def readFile (path : String) : IO ConfigFile := do
  try
    return .content (← IO.FS.readFile path)
  catch
    | .noFileOrDirectory .. => return .absent
    | _ => return .unreadable

/-- The values of variables. -/
def readVariables (names : List String) : IO Environment := do
  let mut e : Environment := fun _ => none
  for name in names do
    if let some value ← IO.getEnv name then e := e.assign name value
  return e

/-- The contents of files. -/
def readFiles (paths : List String) : IO (String → ConfigFile) := do
  let mut files : String → ConfigFile := fun _ => .absent
  for path in paths do
    let file ← readFile path
    let before := files
    files := fun p => if p = path then file else before p
  return files

/-- What the program can ask about. -/
def surroundings (arguments : List String) : IO Surroundings := do
  let assignments := (← readFile envFile).assignments
  let inherited ← readVariables (namesNeeded assignments)
  let files ← readFiles (filesNeeded arguments (inherited.withDefaults assignments))
  return ⟨arguments, inherited, files⟩

/-- Print what the program answers. -/
def print (r : Report) : IO Unit := do
  let errors ← IO.getStderr
  for m in r.log do
    errors.putStrLn (m.level.name ++ " " ++ m.source ++ ": " ++ m.text)
  IO.print r.output
  if let some message := r.error then errors.putStrLn ("Error: " ++ message)
  if r.exit = 2 then errors.putStr Level.root.usage

end Circulation.Console

def main (arguments : List String) : IO UInt32 := do
  let r := Circulation.run (← Circulation.Console.surroundings arguments)
  Circulation.Console.print r
  return UInt32.ofNat r.exit
