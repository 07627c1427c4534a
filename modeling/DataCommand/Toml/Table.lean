import DataCommand.Toml.Basic

/-!
Collecting a document into tables. A key is bound once. A header opens a table that no header and no
dotted key has opened before; an array of tables grows by one table with each of its headers, and
values are never extended. A dotted key leads through tables without a header of their own and
through the latest table of an array of tables; behind its first part it adds entries only to tables
that dotted keys have made.
-/

namespace DataCommand.Toml

/-- The entries of a table that is being collected. -/
abbrev Entries := List (String × Node)

/-- The entries with another node under a key that they have. -/
def replaceNode (key : String) (n : Node) : Entries → Entries
  | [] => []
  | (k, old) :: rest => if k = key then (k, n) :: rest else (k, old) :: replaceNode key n rest

/-- Binds the rest of a dotted key to a value in the table that the key has led to; `grows` says
whether a value may be added to that table itself. -/
def bindRest (v : Item) (grows : Bool) : List String → Entries → Option Entries
  | [], _ => none
  | [key], entries =>
    if grows && (entries.lookup key).isNone then some (entries ++ [(key, .value v)]) else none
  | key :: path, entries =>
    match entries.lookup key with
    | none => (bindRest v true path []).map fun inner => entries ++ [(key, .table .dotted inner)]
    | some (.table .header _) => none
    | some (.table origin inner) =>
      (bindRest v (origin = .dotted) path inner).map fun inner =>
        replaceNode key (.table origin inner) entries
    | some (.tables (last :: earlier)) =>
      (bindRest v false path last).map fun last =>
        replaceNode key (.tables (last :: earlier)) entries
    | some _ => none

/-- Binds a dotted key to a value. -/
def bindKey (v : Item) (path : List String) (entries : Entries) : Option Entries :=
  bindRest v true path entries

/-- Opens the table of a header. -/
def openTable : List String → Entries → Option Entries
  | [], _ => none
  | [key], entries =>
    match entries.lookup key with
    | none => some (entries ++ [(key, .table .header [])])
    | some (.table .implied inner) => some (replaceNode key (.table .header inner) entries)
    | some _ => none
  | key :: path, entries =>
    match entries.lookup key with
    | none => (openTable path []).map fun inner => entries ++ [(key, .table .implied inner)]
    | some (.table origin inner) =>
      (openTable path inner).map fun inner => replaceNode key (.table origin inner) entries
    | some (.tables (last :: earlier)) =>
      (openTable path last).map fun last => replaceNode key (.tables (last :: earlier)) entries
    | some _ => none

/-- Opens the next table of an array of tables. -/
def openNext : List String → Entries → Option Entries
  | [], _ => none
  | [key], entries =>
    match entries.lookup key with
    | none => some (entries ++ [(key, .tables [[]])])
    | some (.tables items) => some (replaceNode key (.tables ([] :: items)) entries)
    | some _ => none
  | key :: path, entries =>
    match entries.lookup key with
    | none => (openNext path []).map fun inner => entries ++ [(key, .table .implied inner)]
    | some (.table origin inner) =>
      (openNext path inner).map fun inner => replaceNode key (.table origin inner) entries
    | some (.tables (last :: earlier)) =>
      (openNext path last).map fun last => replaceNode key (.tables (last :: earlier)) entries
    | some _ => none

/-- Changes the table that a header has opened. -/
def modifyAt (f : Entries → Option Entries) : List String → Entries → Option Entries
  | [], entries => f entries
  | key :: path, entries =>
    match entries.lookup key with
    | some (.table origin inner) =>
      (modifyAt f path inner).map fun inner => replaceNode key (.table origin inner) entries
    | some (.tables (last :: earlier)) =>
      (modifyAt f path last).map fun last => replaceNode key (.tables (last :: earlier)) entries
    | _ => none

/-- A line of a document that says something. -/
inductive Line where
  | entry (path : List String) (value : Item)
  | header (path : List String)
  | nextHeader (path : List String)

/-- A document that is being collected: its tables, and the header that later entries come under. -/
structure Collected where
  tables : Entries := []
  header : List String := []

/-- The document with one more line. -/
def Line.collect (d : Collected) : Line → Option Collected
  | .entry path v =>
    (modifyAt (bindKey v path) d.header d.tables).map fun tables => { d with tables }
  | .header path => (openTable path d.tables).map fun tables => { tables, header := path }
  | .nextHeader path => (openNext path d.tables).map fun tables => { tables, header := path }

/-- The entries of a document with some more lines. -/
def collectLines : List Line → Collected → Option (List (String × Item))
  | [], d => some (entriesToItems d.tables)
  | l :: rest, d => (l.collect d).bind (collectLines rest)

end DataCommand.Toml
