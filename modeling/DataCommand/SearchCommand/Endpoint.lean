import DataCommand.Target
import DataCommand.Text.Uppercase
import DataCommand.Vocabulary

/-!
Endpoints of a search server. A path consists of the index, of a mapping type in the older layout,
and of the action; the index comes from the target and must be a valid index name.
-/

namespace DataCommand

/-- The layout of paths. -/
inductive PathLayout where
  /-- With a mapping type, `_doc` unless the target names one. -/
  | typed
  /-- Without mapping types; documents live under `_doc`. -/
  | typeless
  deriving DecidableEq, Repr, Inhabited

/-- The components of the path of an operation. -/
def PathLayout.components (layout : PathLayout) (operation : Operation) (index : String)
    (mappingType : Option String) : List String :=
  let base := match layout with
    | .typed => [index, mappingType.getD "_doc"]
    | .typeless => [index]
  match operation, layout with
  | .select, _ => base ++ ["_search"]
  | .update, _ => base ++ ["_update_by_query"]
  | .delete, _ => base ++ ["_delete_by_query"]
  | .insert, .typed => base
  | .insert, .typeless => base ++ ["_doc"]

/-- The path of an operation. -/
def PathLayout.path (layout : PathLayout) (operation : Operation) (index : String)
    (mappingType : Option String) : String :=
  String.join ((layout.components operation index mappingType).map ("/" ++ ·))

/-- A method and a path. -/
structure Endpoint where
  method : String
  path : String
  deriving DecidableEq, Repr

def Endpoint.text (e : Endpoint) : String := e.method ++ " " ++ e.path

namespace Target

/-- Characters that no index name starts with. -/
def badIndexStarts : List Char := ['-', '_', '+']

/-- Characters that no index name holds. -/
def forbiddenInIndex : List Char :=
  ['\\', '/', '*', '?', '\x22', '<', '>', '|', ' ', ',', '#']

/-- What is wrong with an index name. -/
def indexFault? (name : String) : Option IndexFault :=
  if name = "" then some .empty
  else if name = "." ∨ name = ".." then some .reserved
  else if badIndexStarts.any fun c => name.toList.head? == some c then some .badStart
  else if name.toList.any Text.isUppercase then some .uppercase
  else if name.toList.any forbiddenInIndex.contains then some .forbidden
  else none

/-- The table, or the catalog if the table is blank. -/
def indexName (t : Target) : String :=
  ((Text.unlessBlank (some t.table)).or (Text.unlessBlank t.catalog)).getD ""

/-- The index name, if it is a valid one. -/
def index (t : Target) : Except CommandError String :=
  match indexFault? t.indexName with
  | some fault => .error (.invalid (.badIndex t.indexName fault))
  | none => .ok t.indexName

/-- The mapping type: the schema, if it is set. -/
def mappingType (t : Target) : Option String := Text.unlessBlank t.schema

/-- The endpoint of an operation on the target. -/
def endpoint (t : Target) (layout : PathLayout) (operation : Operation) :
    Except CommandError Endpoint :=
  t.index.map fun index => ⟨"POST", layout.path operation index t.mappingType⟩

end Target

end DataCommand
