import DataCommand.DocumentCommand.Basic

/-!
Rendering document commands in the notation of a shell. A rendered command binds its values behind
those that are bound already, and keeps them.
-/

namespace DataCommand

/-- A document in shell notation, with the values of its holes. -/
def Document.shellStatement (d : Document Value) : Statement := ⟨d.shell, d.labels⟩

namespace Assignment

/-- What an assignment writes: null for a null without an expression, and a bound value otherwise.
-/
def document (a : Assignment) : Document Value :=
  if a.isBareNull then .null else .bind a.value a.term

/-- Several assignments as one object. -/
def object (assignments : List Assignment) : Document Value :=
  .object (assignments.map fun a => (a.column, a.document))

end Assignment

namespace DocumentCommand

/-- The direction of a sort key as a number. -/
def direction : SortOrder → Int
  | .desc => -1
  | _ => 1

/-- The target with a method and its arguments. -/
def methodCall (d : Dialect) (quote : Bool) (b : DocumentCommand) (method : String)
    (arguments : Statement) : Statement :=
  .plain (d.targetText quote b.target ++ "." ++ method ++ "(") ++ arguments ++ .plain ")"

/-- The filter of a command. -/
def filter (d : Dialect) (b : DocumentCommand) : Statement :=
  (filterOf d b.criteria).shellStatement

/-- The fields to return. -/
def projection (b : DocumentCommand) : Document Value :=
  .object (b.projections.map fun p => (p.field, .int 1))

/-- The sort keys. -/
def sorting (b : DocumentCommand) : Document Value :=
  .object (b.sorts.map fun k => (k.field, .int (direction k.order)))

/-- A query with its projection and its sort keys. -/
def selectText (d : Dialect) (quote : Bool) (b : DocumentCommand) : Statement :=
  let fields :=
    if b.selectsAll then .plain "" else .plain ", " ++ b.projection.shellStatement
  let sort :=
    if b.sorts.isEmpty then .plain ""
    else .plain ".sort(" ++ b.sorting.shellStatement ++ .plain ")"
  b.methodCall d quote "find" (b.filter d ++ fields) ++ sort

/-- An update of all documents that match. -/
def updateText (d : Dialect) (quote : Bool) (b : DocumentCommand) : Statement :=
  b.methodCall d quote "updateMany"
    (b.filter d ++ .plain ", " ++
      (Document.entry "$set" (Assignment.object b.assignments)).shellStatement)

/-- A deletion of all documents that match. -/
def deleteText (d : Dialect) (quote : Bool) (b : DocumentCommand) : Statement :=
  b.methodCall d quote "deleteMany" (b.filter d)

/-- An insert of one document. -/
def insertText (d : Dialect) (quote : Bool) (b : DocumentCommand) : Statement :=
  b.methodCall d quote "insertMany" (Document.array [Assignment.object b.row]).shellStatement

/-- The answer with a rendered command. -/
def completed (operation : Operation) (d : Dialect) (b : DocumentCommand) (warnings : List Event)
    (part : Statement) : Rendered DocumentCommand :=
  let s := part.after b.args
  ⟨.ok s, { b with args := s.args }, warnings ++ [.rendered operation d.name s]⟩

/-- Whether the command can answer a request. -/
def permit (b : DocumentCommand) (request : Request) : Except CommandError Unit :=
  request.permit (!b.criteria.isEmpty) (!b.assignments.isEmpty) (!b.row.isEmpty)

/-- The answer to a request. -/
def render (request : Request) (d : Dialect) (quote : Bool) (b : DocumentCommand) :
    Rendered DocumentCommand :=
  match b.permit request with
  | .error e => ⟨.error e, b, []⟩
  | .ok () =>
    completed request.operation d b (request.warnings d)
      (match request with
        | .select => b.selectText d quote
        | .update _ => b.updateText d quote
        | .delete _ => b.deleteText d quote
        | .insert _ _ => b.insertText d quote)

instance : Builder DocumentCommand where
  label _ := "document store"
  target := target
  args := args
  projects := projects
  projectsAny b := !b.projections.isEmpty
  selectsAll := selectsAll
  call := call "document store"
  openGroup _ _ := .error (refuseGroup "document store")
  closeGroup _ verdict b := (verdict, b)
  render := render

end DocumentCommand

end DataCommand
