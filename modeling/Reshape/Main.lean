/-
Module: Reshape.Main
Purpose: the program: files, variables and the clock in, text and a status out.
Main exports: main
Trusted boundary: file system, environment and clock
-/
import Reshape.CommandLine.Basic
import Std.Time.DateTime.Timestamp

open Reshape

/-- What the system says about a file that cannot be read. -/
def reasonOf : IO.Error → String
  | .noFileOrDirectory .. => "No such file or directory (os error 2)"
  | .permissionDenied .. => "Permission denied (os error 13)"
  | .inappropriateType .. => "Is a directory (os error 21)"
  | other => toString other

/-- The text of a file, or why it cannot be read. -/
def readText (path : String) : IO (Except String String) := do
  try
    match String.fromUTF8? (← IO.FS.readBinFile path) with
    | some text => return .ok text
    | none => return .error "stream did not contain valid UTF-8"
  catch e => return .error (reasonOf e)

/-- The texts of files by their paths. -/
def readTexts (paths : List String) : IO (List (String × Except String String)) :=
  paths.mapM fun path => return (path, ← readText path)

/-- The values of environment variables by their names. -/
def readVariables (names : List String) : IO (List (String × String)) := do
  let found ← names.mapM fun name => return (name, ← IO.getEnv name)
  return found.filterMap fun (name, value) => value.map (name, ·)

def main (arguments : List String) : IO UInt32 := do
  let texts ← readTexts (CommandLine.pathsOf arguments)
  let file := fun path => (texts.lookup path).getD (.error "No such file or directory (os error 2)")
  let given ← readVariables (CommandLine.variablesOf file)
  let now ← Std.Time.Timestamp.now
  let seconds := now.toSecondsSinceUnixEpoch.val
  let millis := now.toMillisecondsSinceUnixEpoch.val - 1000 * seconds
  let outcome := CommandLine.run ⟨file, (List.lookup · given), ⟨seconds, millis.toNat⟩⟩ arguments
  IO.print outcome.output
  IO.eprint outcome.diagnosis
  return outcome.status
