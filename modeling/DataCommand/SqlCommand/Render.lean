import DataCommand.SqlCommand.Basic

/-!
Rendering relational commands. A rendered command binds its values behind those that are bound
already, and keeps them.
-/

namespace DataCommand.SqlCommand

/-- The filter as it follows a statement. -/
def filterText (s : Style) (b : SqlCommand) : Statement :=
  if b.filter.isEmpty then .plain ""
  else
    .plain (if b.hasConditions then " WHERE " else " ") ++
      (Fragment.blankSeparated b.filter).write s

/-- The list of assignments. -/
def assignmentList (assignments : List Assignment) : Fragment :=
  .commaSeparated (assignments.map fun a => .assignment a.column a.value a.term)

/-- A query: projections, target, filter. -/
def selectText (d : Dialect) (quote : Bool) (b : SqlCommand) : Statement :=
  let s : Style := { dialect := d, quote, terms := b.terms }
  let columns :=
    if b.selectsAll then .plain "*" else (Fragment.commaSeparated b.projections).write s
  .plain "SELECT " ++ columns ++ .plain (" FROM " ++ d.targetText quote b.target) ++ b.filterText s

/-- An update: target, assignments, filter. -/
def updateText (d : Dialect) (quote : Bool) (b : SqlCommand) : Statement :=
  let s : Style := { dialect := d, quote }
  .plain ("UPDATE " ++ d.targetText quote b.target ++ " SET ") ++
    (assignmentList b.assignments).write s ++ b.filterText s

/-- A deletion: target and filter. -/
def deleteText (d : Dialect) (quote : Bool) (b : SqlCommand) : Statement :=
  .plain ("DELETE FROM " ++ d.targetText quote b.target) ++ b.filterText { dialect := d, quote }

/-- An insert of one row, every value bound. -/
def insertText (d : Dialect) (quote : Bool) (primaryKey : List String) (onConflict : OnConflict)
    (b : SqlCommand) : Statement :=
  ⟨d.insertText quote (d.targetText quote b.target) primaryKey (b.row.map Assignment.column)
      (b.row.map fun a => a.term.getD "?") onConflict,
    b.row.map Assignment.value⟩

/-- The answer with a rendered command. -/
def completed (operation : Operation) (d : Dialect) (b : SqlCommand) (warnings : List Event)
    (part : Statement) : Rendered SqlCommand :=
  let s := part.after b.args
  ⟨.ok s, { b with args := s.args }, warnings ++ [.rendered operation d.name s]⟩

/-- Whether the command can answer a request. -/
def permit (b : SqlCommand) (request : Request) : Except CommandError Unit :=
  request.permit b.hasConditions (!b.assignments.isEmpty) (!b.row.isEmpty)

/-- The answer to a request. -/
def render (request : Request) (d : Dialect) (quote : Bool) (b : SqlCommand) :
    Rendered SqlCommand :=
  match b.permit request with
  | .error e => ⟨.error e, b, []⟩
  | .ok () => match request with
    | .select => completed .select d b [] (b.selectText d quote)
    | .update _ => completed .update d b [] (b.updateText d quote)
    | .delete _ => completed .delete d b [] (b.deleteText d quote)
    | .insert primaryKey asked =>
      let resolved := asked.weaken d primaryKey
      completed .insert d b resolved.2 (b.insertText d quote primaryKey resolved.1)

instance : Builder SqlCommand where
  label _ := "sql"
  target := target
  args := args
  projects := projects
  projectsAny b := !b.projections.isEmpty
  selectsAll := selectsAll
  call := call
  openGroup := openGroup
  closeGroup := closeGroup
  render := render

end DataCommand.SqlCommand
