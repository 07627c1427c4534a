import DataCommand.CommandLine.Run

/-!
The program: the command line on the files and the environment of the machine.
-/

namespace DataCommand

/-- The number of an error of the machine, some of whose operations report it below zero. -/
def errorNumber (code : UInt32) : UInt32 := min code (0 - code)

/-- An error of the machine as an error of a file operation. -/
def FileError.ofMachine (e : IO.Error) : FileError :=
  match e with
  | .noFileOrDirectory .. => .notFound
  | .alreadyExists .. => .exists
  | .inappropriateType _ code _ => if errorNumber code = 21 then .isDirectory else .notDirectory
  | .invalidArgument _ code _ => if errorNumber code = 36 then .tooLong else .other (toString e)
  | _ => .other (toString e)

/-- Runs an operation of the machine. -/
def Host.attempt {α : Type} (action : IO α) : IO (Except FileError α) := do
  try
    return .ok (← action)
  catch e =>
    return .error (.ofMachine e)

/-- The machine itself. -/
def Host.machine : Host IO where
  readText path := attempt (IO.FS.readFile path)
  makeDirectories path := attempt (IO.FS.createDirAll path)
  createFile path text := attempt do
    let handle ← IO.FS.Handle.mk path .writeNew
    handle.putStr text
  lookup name := IO.getEnv name

end DataCommand

/-- Prints what a run prints; an error goes to the error output and gives the exit code 1. -/
def main (args : List String) : IO UInt32 := do
  let report ← DataCommand.CommandLine.run DataCommand.Host.machine args
  IO.print report.printed
  match report.error with
  | none => return 0
  | some e =>
    IO.eprintln e.message
    return 1
