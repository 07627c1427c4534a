import DataCommand.CommandError
import DataCommand.Text.Blank
import DataCommand.Text.Split

/-!
The table, collection or index that a command addresses. A target may carry two qualifiers, and can
be written in one text with dots between its parts.
-/

namespace DataCommand

/-- A table with its optional qualifiers. -/
structure Target where
  catalog : Option String := none
  schema : Option String := none
  table : String := ""
  deriving DecidableEq, Repr, Inhabited

namespace Target

/-- The target with these parts, outermost first. -/
def ofParts? : List String → Option Target
  | [table] => some { table }
  | [schema, table] => some { schema, table }
  | [catalog, schema, table] => some { catalog, schema, table }
  | _ => none

/-- Reads `table`, `schema.table` or `catalog.schema.table`. Parts are trimmed and only the table
must not be blank, so a blank qualifier is there, but empty. -/
def parse (dotted : String) : Except CommandError Target :=
  match ofParts? ((Text.pieces '.' dotted).map Text.trim) with
  | none => .error (.invalid (.badTarget dotted))
  | some t => if t.table = "" then .error (.invalid (.badTarget dotted)) else .ok t

end Target

end DataCommand
