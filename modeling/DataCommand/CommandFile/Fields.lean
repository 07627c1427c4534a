import DataCommand.CommandFile.Basic
import DataCommand.Toml.Reader

/-!
Reading a command file off its TOML. A record is a table of known fields, or an array that lists the
fields in order; a choice is a word, or a table whose one key is that word.
-/

namespace DataCommand

namespace Toml

/-- The fields of a record that are present. -/
abbrev Fields := List (String × Item)

namespace Item

/-- The fields of a record with these names: a table holds no others, and an array gives them in
order. -/
def fields? (names : List String) : Item → Option Fields
  | .table entries => if entries.all fun e => names.contains e.1 then some entries else none
  | .array items => some (names.zip items)
  | _ => none

def text? : Item → Option String
  | .str s => some s
  | _ => none

def flag? : Item → Option Bool
  | .bool b => some b
  | _ => none

/-- An unsigned number. -/
def natural? : Item → Option UInt64
  | .int n => if Number.fitsUnsignedWord n then some (UInt64.ofNat n.toNat) else none
  | _ => none

/-- The word of a choice. -/
def word? : Item → Option String
  | .str s => some s
  | .table [(word, .array [])] => some word
  | .table [(word, .table [])] => some word
  | _ => none

/-- A choice by its word. -/
def choice? {α : Type} (named : String → Option α) (v : Item) : Option α := v.word?.bind named

def list? {α : Type} (read : Item → Option α) : Item → Option (List α)
  | .array items => items.mapM read
  | _ => none

/-- A value for a command. -/
def value? (v : Item) : Option Value := v.toJson?.map Value.ofJson

end Item

namespace Fields
variable {α : Type}

/-- A field that has to be there. -/
def required (fields : Fields) (name : String) (read : Item → Option α) : Option α :=
  (fields.lookup name).bind read

/-- A field that may be absent; one that is there has to be valid. -/
def optional (fields : Fields) (name : String) (read : Item → Option α) : Option (Option α) :=
  match fields.lookup name with
  | none => some none
  | some v => (read v).map some

/-- A field with a default. -/
def withDefault (fields : Fields) (name : String) (read : Item → Option α) (default : α) :
    Option α :=
  match fields.lookup name with
  | none => some default
  | some v => read v

/-- A list that is empty if absent. -/
def listOf (fields : Fields) (name : String) (read : Item → Option α) : Option (List α) :=
  fields.withDefault name (Item.list? read) []

end Fields

end Toml

open Toml

/-- Reads a target. -/
def Target.ofItem? (v : Item) : Option Target := do
  let fields ← v.fields? ["table", "schema", "catalog"]
  return {
    table := ← fields.required "table" Item.text?
    schema := ← fields.optional "schema" Item.text?
    catalog := ← fields.optional "catalog" Item.text? }

def RowWindow.ofItem? (v : Item) : Option RowWindow := do
  let fields ← v.fields? ["start", "limit"]
  return {
    start := ← fields.withDefault "start" Item.natural? 0
    limit := ← fields.required "limit" Item.natural? }

def ProjectionEntry.ofItem? (v : Item) : Option ProjectionEntry := do
  let fields ← v.fields? ["column", "term", "expr", "args"]
  return {
    column := ← fields.optional "column" Item.text?
    term := ← fields.optional "term" Item.text?
    expr := ← fields.optional "expr" Item.text?
    args := ← fields.listOf "args" Item.value? }

namespace FilterEntry

/-- The names of the fields, in order. -/
def fieldNames : List String :=
  ["logic", "op", "column", "column_term", "value", "value_term", "like", "values", "low", "high",
    "text", "args", "conditions"]

/-- Reads an entry of `where`; `depth` bounds how deeply groups are nested. -/
def ofItem? : Nat → Item → Option FilterEntry
  | 0, _ => none
  | depth + 1, v => do
    let fields ← v.fields? fieldNames
    let connective ←
      fields.withDefault "logic" (Item.choice? (ofWord? Connective.word Connective.all)) {}
    let kind ← fields.required "op" (Item.choice? (ofWord? FilterKind.word FilterKind.all))
    let column ← fields.optional "column" Item.text?
    let columnTerm ← fields.optional "column_term" Item.text?
    let value ← fields.optional "value" Item.value?
    let valueTerm ← fields.optional "value_term" Item.text?
    let wildcards ←
      fields.withDefault "like" (Item.choice? (ofWord? Wildcards.word Wildcards.all)) .both
    let values ← fields.listOf "values" Item.value?
    let low ← fields.optional "low" Item.value?
    let high ← fields.optional "high" Item.value?
    let text ← fields.optional "text" Item.text?
    let args ← fields.listOf "args" Item.value?
    let entries ← fields.listOf "conditions" (ofItem? depth)
    return .mk
      { connective, kind, column, columnTerm, value, valueTerm, wildcards, values, low, high, text,
        args }
      entries

end FilterEntry

def GroupEntry.ofItem? (v : Item) : Option GroupEntry := do
  let fields ← v.fields? ["column", "term"]
  return {
    column := ← fields.required "column" Item.text?
    term := ← fields.optional "term" Item.text? }

def SortEntry.ofItem? (v : Item) : Option SortEntry := do
  let fields ← v.fields? ["column", "term", "order", "nulls"]
  return {
    column := ← fields.required "column" Item.text?
    term := ← fields.optional "term" Item.text?
    order := ←
      fields.withDefault "order" (Item.choice? (ofWord? SortOrder.word SortOrder.all)) .default
    nulls := ←
      fields.withDefault "nulls" (Item.choice? (ofWord? NullsPlace.word NullsPlace.all)) .default }

/-- Reads an entry of `set` or `values`; a value that is not there is null. -/
def Assignment.ofItem? (v : Item) : Option Assignment := do
  let fields ← v.fields? ["column", "value", "term"]
  return {
    column := ← fields.required "column" Item.text?
    value := ← fields.withDefault "value" Item.value? .null
    term := ← fields.optional "term" Item.text? }

namespace CommandFile

/-- The names of the fields, in order. -/
def fieldNames : List String :=
  ["dialect", "quote", "operation", "allow_empty_filter", "conflict", "primary_key", "count",
    "page", "target", "select", "where", "group_by", "order_by", "set", "values"]

/-- Reads the fields of a file. -/
def ofItem? (v : Item) : Option CommandFile := do
  let fields ← v.fields? fieldNames
  return {
    backend := ← fields.optional "dialect" (Item.choice? Backend.named?)
    quote := ← fields.withDefault "quote" Item.flag? false
    operation := ←
      fields.withDefault "operation" (Item.choice? (ofWord? Operation.word Operation.all)) .select
    allowUnfiltered := ← fields.withDefault "allow_empty_filter" Item.flag? false
    onConflict := ←
      fields.withDefault "conflict"
        (Item.choice? (ofWord? OnConflict.word OnConflict.all)) .plain
    primaryKey := ← fields.listOf "primary_key" Item.text?
    count := ← fields.withDefault "count" Item.flag? false
    window := ← fields.optional "page" RowWindow.ofItem?
    target := ← fields.required "target" Target.ofItem?
    projections := ← fields.listOf "select" ProjectionEntry.ofItem?
    filter := ← fields.listOf "where" (FilterEntry.ofItem? v.depth)
    groupBy := ← fields.listOf "group_by" GroupEntry.ofItem?
    sortBy := ← fields.listOf "order_by" SortEntry.ofItem?
    assignments := ← fields.listOf "set" Assignment.ofItem?
    row := ← fields.listOf "values" Assignment.ofItem? }

/-- Reads the text of a file. -/
def ofText? (text : String) : Option CommandFile :=
  (document? text).bind fun entries => ofItem? (.table entries)

end CommandFile

end DataCommand
