/-
# Recordsmith.Main — the program

The command line over the files of the machine. All decisions are made by
`Command.run`; here its file operations are carried out and its outcome is
printed.
-/
import Recordsmith.Command.Session

namespace Recordsmith.Program

open Recordsmith.Command

set_option autoImplicit false

/-- The cause of a failed operation. -/
def fileError : IO.Error → FileError
  | .noFileOrDirectory .. => .notFound
  | .alreadyExists .. => .alreadyExists
  | .inappropriateType _ 20 _ => .notDirectory
  | .inappropriateType _ 21 _ => .isDirectory
  | .invalidArgument _ 36 _ => .nameTooLong
  | error => .other (toString error)

/-- Carry out an operation and tell how it failed. -/
def attempt {α : Type} (action : IO α) : IO (Except FileError α) := do
  try
    return .ok (← action)
  catch error => return .error (fileError error)

instance : FileSystem IO where
  readText path := attempt (IO.FS.readFile path)
  kind? path := do
    match ← attempt (IO.FS.withFile path .read fun handle => handle.read 1) with
    | .ok _ => return some .file
    | .error .isDirectory => return some .directory
    | .error .notFound => return none
    | .error .notDirectory => return none
    | .error .nameTooLong => return none
    | .error _ => return some .file
  makeDirectory path := attempt (IO.FS.createDir path)
  writeText path content := attempt (IO.FS.writeFile path content)

/-- The line for an event. -/
def eventLine (event : Event) : String :=
  event.level.word ++ " " ++ event.shown

end Recordsmith.Program

open Recordsmith Recordsmith.Command Recordsmith.Program in
def main (args : List String) : IO UInt32 := do
  let threshold? := (← IO.getEnv "DJC_LOG").bind Threshold.ofName?
  let outcome ← run threshold? args
  for event in outcome.events do
    IO.eprintln (eventLine event)
  IO.print outcome.stdout
  for line in outcome.report do
    IO.eprintln line
  match outcome.errors with
  | [] => pure ()
  | first :: causes =>
      IO.eprintln ("error: " ++ first)
      for cause in causes do
        IO.eprintln ("  caused by: " ++ cause)
  return outcome.exit.toUInt32
