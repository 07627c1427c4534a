import DataCommand.Text.Join
import DataCommand.Text.Quoted

/-!
Document expressions: JSON-like trees with holes for bound values. A hole is written as a
placeholder, or as an expression of the caller; what is bound to it is its label, which no text
shows. There are two notations, that of a shell, which leaves simple keys bare, and compact JSON.
-/

namespace DataCommand

/-- A tree whose holes carry labels. -/
inductive Document (β : Type) where
  /-- A placeholder. -/
  | hole (label : β)
  /-- An expression in the place of a placeholder. -/
  | term (text : String) (label : β)
  | null
  | int (n : Int)
  | str (s : String)
  | object (entries : List (String × Document β))
  | array (items : List (Document β))

namespace Document
variable {β : Type}

instance : Inhabited (Document β) := ⟨.null⟩

/-- An object of one entry. -/
def entry (key : String) (value : Document β) : Document β := .object [(key, value)]

/-- A hole, written as the expression if there is one. -/
def bind (label : β) : Option String → Document β
  | none => .hole label
  | some text => .term text label

mutual

/-- The labels of the holes, in the order of the text. -/
def labels : Document β → List β
  | .hole label => [label]
  | .term _ label => [label]
  | .object entries => labelsOfEntries entries
  | .array items => labelsOfItems items
  | .null | .int _ | .str _ => []

/-- The labels in the values of the entries. -/
def labelsOfEntries : List (String × Document β) → List β
  | [] => []
  | (_, d) :: rest => labels d ++ labelsOfEntries rest

/-- The labels in the items. -/
def labelsOfItems : List (Document β) → List β
  | [] => []
  | d :: rest => labels d ++ labelsOfItems rest

end

/-- A character at the start of a bare key. -/
def startsBareKey (c : Char) : Bool := c = '$' || c = '_' || c.isAlpha

/-- A character inside a bare key. -/
def continuesBareKey (c : Char) : Bool := c = '$' || c = '_' || c.isAlphanum

/-- The shell takes the key without quotes. -/
def isBare (key : String) : Bool :=
  match key.toList with
  | [] => false
  | c :: cs => startsBareKey c && cs.all continuesBareKey

/-- A key in shell notation. -/
def shellKey (key : String) : String := if isBare key then key else Text.jsonQuoted key

mutual

/-- The shell notation, `{a: ?, b: {$gt: ?}}`. -/
def shell : Document β → String
  | .hole _ => "?"
  | .term text _ => text
  | .null => "null"
  | .int n => toString n
  | .str s => Text.jsonQuoted s
  | .object entries => "\x7b" ++ Text.join ", " (shellEntries entries) ++ "\x7d"
  | .array items => "[" ++ Text.join ", " (shellItems items) ++ "]"

/-- The entries in shell notation. -/
def shellEntries : List (String × Document β) → List String
  | [] => []
  | (key, d) :: rest => (shellKey key ++ ": " ++ shell d) :: shellEntries rest

/-- The items in shell notation. -/
def shellItems : List (Document β) → List String
  | [] => []
  | d :: rest => shell d :: shellItems rest

end

mutual

/-- Compact JSON, `{"a":?,"b":{"$gt":?}}`. -/
def json : Document β → String
  | .hole _ => "?"
  | .term text _ => text
  | .null => "null"
  | .int n => toString n
  | .str s => Text.jsonQuoted s
  | .object entries => "\x7b" ++ Text.join "," (jsonEntries entries) ++ "\x7d"
  | .array items => "[" ++ Text.join "," (jsonItems items) ++ "]"

/-- The entries in compact JSON. -/
def jsonEntries : List (String × Document β) → List String
  | [] => []
  | (key, d) :: rest => (Text.jsonQuoted key ++ ":" ++ json d) :: jsonEntries rest

/-- The items in compact JSON. -/
def jsonItems : List (Document β) → List String
  | [] => []
  | d :: rest => json d :: jsonItems rest

end

end Document

end DataCommand
