import DataCommand.Backend.Fresh
import DataCommand.CommandFile.Fields
import DataCommand.CommandFile.Plan

/-!
Rendering the plan of a file: its calls are run on a fresh command, the command is rendered, and the
statement is cut to its window and then turned into a count, as far as the file asks for it.
-/

namespace DataCommand

namespace Plan

/-- The plan of the text of a file. -/
def ofText (env : Environment) (text : String) : Except FileFault Plan :=
  match CommandFile.ofText? text with
  | none => .error .malformed
  | some file => file.expand env >>= CommandFile.plan

/-- The calls that fill a command. -/
def steps (p : Plan) : List Step := .call (.setTarget p.target) :: p.clauses

/-- The window and the count of a rendered query. -/
def wrap (p : Plan) (d : Dialect) (s : Statement) : Except CommandError Statement :=
  let cut := match p.window with
    | some window => d.windowed s window.start window.limit
    | none => .ok s
  cut.map fun s => if p.count then d.counted s else s

/-- The statement that a command renders for the plan, and the log events on the way. -/
def renderOn {σ : Type} [Builder σ] (d : Dialect) (quote : Bool) (p : Plan) (b : σ) :
    Except CommandError Statement × List Event :=
  let filled := Step.runAll false p.steps b
  match filled.reply.findSome? Reply.error? with
  | some e => (.error e, filled.events)
  | none =>
    let r := Builder.render p.request d quote filled.after
    (r.result.bind (p.wrap d), filled.events ++ r.events)

/-- The statement of the plan for a backend, with every name quoted if forced. -/
def render (backend : Backend) (forceQuote : Bool) (p : Plan) :
    Except CommandError Statement × List Event :=
  backend.onFresh fun b => p.renderOn backend.dialect (forceQuote || p.quote) b

end Plan

/-- The variables that the text of a file refers to. -/
def CommandFile.variablesIn (text : String) : List String :=
  match CommandFile.ofText? text with
  | none => []
  | some file => file.target.variables

/-- The statement with one numbered line for each argument. -/
def Statement.listing (s : Statement) : String :=
  s.text ++ "\n" ++
    String.join (s.args.mapIdx fun i v => "  [" ++ toString (i + 1) ++ "] " ++ v.display ++ "\n")

end DataCommand
