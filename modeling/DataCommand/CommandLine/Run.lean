import DataCommand.CommandFile.Render
import DataCommand.CommandLine.Overview
import DataCommand.CommandLine.Help
import DataCommand.CommandLine.Template
import DataCommand.Host.Basic
import DataCommand.Host.Path

/-!
The command line. A run reads at most one file or writes at most one, and reports what it prints,
what it logs, and what it fails with.
-/

namespace DataCommand.CommandLine
open Host

/-- What a run fails with. -/
inductive RunError where
  | usage (fault : UsageFault)
  | unreadable (file : String) (e : FileError)
  | badFile (file : String) (fault : FileFault)
  | notRendered (file : String) (e : CommandError)
  /-- A template never takes the place of a file. -/
  | taken (file : String)
  | notCreated (path : String) (e : FileError)

/-- The wording of an error. -/
def RunError.message : RunError → String
  | .usage fault => fault.message
  | .unreadable file e => "failed to read command file " ++ file ++ ": " ++ e.message
  | .badFile file fault => "invalid command file " ++ file ++ ": " ++ fault.message
  | .notRendered file e => file ++ ": " ++ e.message
  | .taken file => "refusing to overwrite " ++ file
  | .notCreated path e => "cannot create " ++ path ++ ": " ++ e.message

/-- What came of a run. -/
structure Report where
  printed : String := ""
  events : List Event := []
  error : Option RunError := none

/-- The report of rendering the text of a command file. -/
def renderText (env : Environment) (options : RenderOptions) (text : String) : Report :=
  match Plan.ofText env text with
  | .error fault => { error := some (.badFile options.file fault) }
  | .ok plan =>
    let backend := (options.backend.or plan.backend).getD .standard
    let rendered := plan.render backend options.quote
    let events := .renderingFile options.file backend.name plan.request.operation :: rendered.2
    match rendered.1 with
    | .error e => { events, error := some (.notRendered options.file e) }
    | .ok s =>
      { printed := if options.json then s.toJson.pretty ++ "\n" else s.listing, events }

variable {m : Type → Type} [Monad m]

/-- The values of those variables that are defined. -/
def readVariables (host : Host m) : List String → m (List (String × String))
  | [] => return []
  | name :: rest => do
    let value ← host.lookup name
    let others ← readVariables host rest
    return (value.map fun v => (name, v)).toList ++ others

/-- Renders a command file. -/
def runRender (host : Host m) (options : RenderOptions) : m Report := do
  match ← host.readText options.file with
  | .error e => return { error := some (.unreadable options.file e) }
  | .ok text =>
    let defined ← readVariables host (CommandFile.variablesIn text)
    return renderText (fun name => defined.lookup name) options text

/-- Writes the template to a new file, in a directory that is made if it is missing. -/
def runInit (host : Host m) (file : String) : m Report := do
  let above := (parent? file).getD ""
  match ← if above = "" then pure (.ok ()) else host.makeDirectories above with
  | .error e => return { error := some (.notCreated above e) }
  | .ok () =>
    match ← host.createFile file template with
    | .error .exists => return { error := some (.taken file) }
    | .error e => return { error := some (.notCreated file e) }
    | .ok () => return { printed := "wrote " ++ file ++ "\n" }

/-- Runs the command line on the arguments behind the name of the program. -/
def run (host : Host m) (args : List String) : m Report :=
  match parse args with
  | .error fault => return { error := some (.usage fault) }
  | .ok (.help topic) => return { printed := topic.text }
  | .ok .overview => return { printed := overview ++ "\n" }
  | .ok (.render options) => runRender host options
  | .ok (.init file) => runInit host file

end DataCommand.CommandLine
