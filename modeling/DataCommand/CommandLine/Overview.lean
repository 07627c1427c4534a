import DataCommand.Backend.Basic
import DataCommand.Dialect.Conflict
import DataCommand.Text.Box

/-!
The table of backends: how each of them quotes, what its keys of grouping and ordering may
name, whether it orders nulls, which conflicts its inserts resolve, and how it cuts a window.
-/

namespace DataCommand.CommandLine

def familyText : Family → String
  | .sql => "sql"
  | .document => "document"
  | .search => "search"

def windowText : WindowForm → String
  | .offsetFetch => "OFFSET/FETCH"
  | .limitPair => "LIMIT ?, ?"
  | .limitOffset => "LIMIT/OFFSET"
  | .rowNumber => "ROWNUM"
  | .hint => "hint comment"

def flagText (b : Bool) : String := if b then "yes" else "no"

/-- What a dialect can do about conflicts in a table with a key. -/
def conflictText (d : Dialect) : String :=
  let names := (if d.canSkip ["id"] then ["ignore"] else []) ++
    if d.canOverwrite ["id"] then ["upsert"] else []
  if names.isEmpty then "-" else Text.join ", " names

/-- The quotes of a backend; only those of SQL have any. -/
def quotesText (backend : Backend) : String :=
  match backend.family with
  | .sql => String.ofList [backend.dialect.leftQuote, backend.dialect.rightQuote]
  | _ => "-"

/-- The head of the table. -/
def overviewHead : List String :=
  ["Dialect", "Family", "Quotes", "GROUP BY alias", "ORDER BY alias", "NULLS", "Conflict", "Paging"]

/-- The row of a backend. -/
def overviewRow (backend : Backend) : List String :=
  let d := backend.dialect
  [backend.name, familyText backend.family, quotesText backend, flagText d.groupsByAlias,
    flagText d.ordersByAlias, flagText d.ordersNulls, conflictText d, windowText d.windowForm]

/-- The table. -/
def overview : String :=
  Text.boxed overviewHead (Backend.all.map overviewRow)

end DataCommand.CommandLine
