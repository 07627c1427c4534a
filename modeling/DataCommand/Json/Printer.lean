import DataCommand.Json.Basic
import DataCommand.Number.FloatText
import DataCommand.Text.Quoted

/-!
The two written forms of a JSON value: compact, without any space, and indented by two spaces a
level. Both write entries in the order in which the object holds them.
-/

namespace DataCommand.Json

mutual

/-- The compact form. -/
def compact : Json → String
  | .null => "null"
  | .bool b => if b then "true" else "false"
  | .int n => toString n
  | .float x => if x.isFinite then x.jsonText else "null"
  | .str s => Text.jsonQuoted s
  | .arr items => "[" ++ Text.join "," (compactItems items) ++ "]"
  | .obj entries => "\x7b" ++ Text.join "," (compactEntries entries) ++ "\x7d"

/-- The compact forms of the items. -/
def compactItems : List Json → List String
  | [] => []
  | j :: rest => compact j :: compactItems rest

/-- The compact forms of the entries. -/
def compactEntries : List (String × Json) → List String
  | [] => []
  | (k, j) :: rest => (Text.jsonQuoted k ++ ":" ++ compact j) :: compactEntries rest

end

/-- The start of a line at a level of nesting. -/
def newLine (level : Nat) : String := "\n" ++ Text.replicate (2 * level) ' '

/-- Lines between two brackets, each one level deeper than the brackets themselves. -/
def block (left right : String) (level : Nat) (lines : List String) : String :=
  if lines.isEmpty then left ++ right
  else left ++ newLine (level + 1) ++ Text.join ("," ++ newLine (level + 1)) lines ++
    newLine level ++ right

mutual

/-- The indented form, starting at a level of nesting. -/
def indented (level : Nat) : Json → String
  | .arr items => block "[" "]" level (indentedItems (level + 1) items)
  | .obj entries => block "\x7b" "\x7d" level (indentedEntries (level + 1) entries)
  | .null => "null"
  | .bool b => if b then "true" else "false"
  | .int n => toString n
  | .float x => if x.isFinite then x.jsonText else "null"
  | .str s => Text.jsonQuoted s

/-- The indented forms of the items. -/
def indentedItems (level : Nat) : List Json → List String
  | [] => []
  | j :: rest => indented level j :: indentedItems level rest

/-- The indented forms of the entries. -/
def indentedEntries (level : Nat) : List (String × Json) → List String
  | [] => []
  | (k, j) :: rest => (Text.jsonQuoted k ++ ": " ++ indented level j) :: indentedEntries level rest

end

/-- The indented form. -/
def pretty (j : Json) : String := indented 0 j

end DataCommand.Json
