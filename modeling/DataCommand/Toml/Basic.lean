import DataCommand.Json.Basic

/-!
TOML values, and the tables they are collected in. While a document is read, a table remembers how
it came into being, since that decides who may still extend it.
-/

namespace DataCommand.Toml

/-- A value; dates and times are kept as their normal text. -/
inductive Item where
  | str (s : String)
  | int (n : Int)
  | float (x : Binary64)
  /-- A number beyond the range of its kind; it may stand where no number is used. -/
  | excessive
  | bool (b : Bool)
  | moment (text : String)
  | array (items : List Item)
  | table (entries : List (String × Item))
  deriving Inhabited

/-- How a table came into being. -/
inductive Origin where
  /-- By a header of its own. -/
  | header
  /-- On the way to the table of a longer header. -/
  | implied
  /-- On the way along a dotted key. -/
  | dotted
  deriving DecidableEq

/-- A place in a document that is being read. -/
inductive Node where
  /-- A value, which nothing extends any more. -/
  | value (v : Item)
  | table (origin : Origin) (entries : List (String × Node))
  /-- An array of tables, with the latest one first. -/
  | tables (items : List (List (String × Node)))
  deriving Inhabited

mutual

/-- The value that a place holds in the end. -/
def Node.toItem : Node → Item
  | .value v => v
  | .table _ entries => .table (entriesToItems entries)
  | .tables items => .array (tablesToItems items).reverse

/-- The values of the entries of a table. -/
def entriesToItems : List (String × Node) → List (String × Item)
  | [] => []
  | (key, n) :: rest => (key, n.toItem) :: entriesToItems rest

/-- The tables of an array of tables. -/
def tablesToItems : List (List (String × Node)) → List Item
  | [] => []
  | entries :: rest => .table (entriesToItems entries) :: tablesToItems rest

end

mutual

/-- The JSON form: tables in the order of their keys, a moment under a key of its own, and null for
a number that is not finite. A number beyond its range has none. -/
def Item.toJson? : Item → Option Json
  | .str s => some (.str s)
  | .int n => some (.int n)
  | .float x => some (if x.isFinite then .float x else .null)
  | .excessive => none
  | .bool b => some (.bool b)
  | .moment text => some (.obj [("$__toml_private_datetime", .str text)])
  | .array items => (itemsToJson? items).map .arr
  | .table entries => (entriesToJson? entries).map .obj

/-- The JSON forms of the items. -/
def itemsToJson? : List Item → Option (List Json)
  | [] => some []
  | v :: rest =>
    match v.toJson?, itemsToJson? rest with
    | some j, some tail => some (j :: tail)
    | _, _ => none

/-- The JSON forms of the entries, in the order of their keys. -/
def entriesToJson? : List (String × Item) → Option (List (String × Json))
  | [] => some []
  | (key, v) :: rest =>
    match v.toJson?, entriesToJson? rest with
    | some j, some tail => some (Json.put key j tail)
    | _, _ => none

end

mutual

/-- How deeply arrays and tables are nested, a plain value counting as one level. -/
def Item.depth : Item → Nat
  | .array items => itemsDepth items + 1
  | .table entries => entriesDepth entries + 1
  | _ => 1

/-- The greatest depth among the items. -/
def itemsDepth : List Item → Nat
  | [] => 0
  | v :: rest => max v.depth (itemsDepth rest)

/-- The greatest depth among the entries. -/
def entriesDepth : List (String × Item) → Nat
  | [] => 0
  | (_, v) :: rest => max v.depth (entriesDepth rest)

end

end DataCommand.Toml
