import Phrasebook.Command.Execution

/-!
# The program

Reads the files that a command names, does what the command says and writes the outcome.
-/

namespace Phrasebook.Main

open Phrasebook Command

/-- What reading one file yields. -/
def readFile (path : String) : IO (Except ReadFault String) := do
  try
    let bytes ← IO.FS.readBinFile path
    match String.fromUTF8? bytes with
    | some text => return .ok text
    | none => return .error .notText
  catch e =>
    match e with
    | .noFileOrDirectory _ _ _ => return .error .notFound
    | e => return .error (.other (toString e))

/-- What reading each of several files yields. -/
def readFiles (paths : List String) : IO (Keyed (Except ReadFault String)) := do
  let contents ← paths.mapM fun path => return (path, ← readFile path)
  return Keyed.ofList contents

/-- The variables of the environment that concern the program. -/
def environment : IO Environment := do
  let names := ["LOCUS_CATALOG", "LOCUS_ISO"]
  let found ← names.mapM fun name => return (name, ← IO.getEnv name)
  return Keyed.ofList (found.filterMap fun (name, value) => value.map fun v => (name, v))

/-- The outcome of the arguments. -/
def perform (arguments : List String) : IO Outcome := do
  match readLine (← environment) arguments with
  | .error fault => return usageOutcome fault
  | .ok invocation =>
    let files ← readFiles invocation.command.files
    return invocation.run fun path => (files.get? path).getD (.error .notFound)

end Phrasebook.Main

/-- Runs the program. -/
def main (arguments : List String) : IO UInt32 := do
  let outcome ← Phrasebook.Main.perform arguments
  (← IO.getStdout).putStr outcome.output
  (← IO.getStderr).putStr outcome.errors
  return UInt32.ofNat outcome.code
