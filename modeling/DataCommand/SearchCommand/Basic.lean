import DataCommand.DocumentCommand.Render
import DataCommand.SearchCommand.Endpoint
import DataCommand.SearchCommand.Query

/-!
Search commands under construction. They accept what a document command accepts, and are rendered
as an endpoint with a body in JSON.
-/

namespace DataCommand

/-- A search command under construction. -/
structure SearchCommand where
  content : DocumentCommand := {}
  layout : PathLayout

/-- A sort key with the options that are not left to the backend. -/
def SortKey.document (k : SortKey) : Document Value :=
  let order := match k.order with
    | .asc => [("order", Document.str "asc")]
    | .desc => [("order", .str "desc")]
    | .default => []
  let missing := match k.nulls with
    | .first => [("missing", Document.str "_first")]
    | .last => [("missing", .str "_last")]
    | .default => []
  if (order ++ missing).isEmpty then .str k.field else .entry k.field (.object (order ++ missing))

namespace SearchCommand

/-- The body of a query. -/
def selectBody (d : Dialect) (b : DocumentCommand) : Document Value :=
  let fields :=
    if b.selectsAll then []
    else [("_source", Document.array (b.projections.map fun p => .str p.field))]
  let sort :=
    if b.sorts.isEmpty then [] else [("sort", Document.array (b.sorts.map SortKey.document))]
  .object ([("query", queryOf d b.criteria)] ++ fields ++ sort)

/-- The body of an update: a script that puts the assigned fields into every document found. -/
def updateBody (d : Dialect) (b : DocumentCommand) : Document Value :=
  .object [("query", queryOf d b.criteria), ("script", .object [
    ("source", .str "ctx._source.putAll(params.data)"), ("lang", .str "painless"),
    ("params", .entry "data" (Assignment.object b.assignments))])]

/-- The body of a deletion. -/
def deleteBody (d : Dialect) (b : DocumentCommand) : Document Value :=
  .entry "query" (queryOf d b.criteria)

/-- The body of a request. -/
def body (d : Dialect) (b : DocumentCommand) : Request → Document Value
  | .select => selectBody d b
  | .update _ => updateBody d b
  | .delete _ => deleteBody d b
  | .insert _ _ => Assignment.object b.row

/-- The endpoint of an operation. -/
def endpoint (b : SearchCommand) (operation : Operation) : Except CommandError Endpoint :=
  b.content.target.endpoint b.layout operation

/-- The answer to a request. Nothing is logged and nothing changes if the target names no valid
index. -/
def render (request : Request) (d : Dialect) (_quote : Bool) (b : SearchCommand) :
    Rendered SearchCommand :=
  match b.content.permit request with
  | .error e => ⟨.error e, b, []⟩
  | .ok () => match b.endpoint request.operation with
    | .error e => ⟨.error e, b, []⟩
    | .ok endpoint =>
      let body := body d b.content request
      let s := (Statement.mk (endpoint.text ++ " " ++ body.json) body.labels).after b.content.args
      ⟨.ok s, { b with content := { b.content with args := s.args } },
        request.warnings d ++ [.rendered request.operation d.name s]⟩

/-- The answer to a construction call. -/
def call (c : Call) (b : SearchCommand) : Outcome SearchCommand :=
  let o := DocumentCommand.call "search endpoint" c b.content
  (o.1, { b with content := o.2 })

instance : Builder SearchCommand where
  label _ := "search endpoint"
  target b := b.content.target
  args b := b.content.args
  projects b := b.content.projects
  projectsAny b := !b.content.projections.isEmpty
  selectsAll b := b.content.selectsAll
  call := call
  openGroup _ _ := .error (DocumentCommand.refuseGroup "search endpoint")
  closeGroup _ verdict b := (verdict, b)
  render := render

end SearchCommand

end DataCommand
