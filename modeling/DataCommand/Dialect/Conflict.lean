import DataCommand.Dialect.Basic

/-!
Insert statements. `terms` holds one value text for each column. A dialect with a form for conflicts
writes an insert that skips the rows whose key is taken, or one that overwrites their other columns;
where that is not possible the plain insert takes its place.
-/

namespace DataCommand.Dialect

/-- An insert can skip rows whose key is taken. -/
def canSkip (d : Dialect) (primaryKey : List String) : Bool :=
  match d.conflictForm with
  | .none => false
  | .duplicateKey => true
  | .onConflict => true
  | .merge => !primaryKey.isEmpty

/-- An insert can overwrite rows whose key is taken. -/
def canOverwrite (d : Dialect) (primaryKey : List String) : Bool :=
  match d.conflictForm with
  | .none => false
  | .duplicateKey => true
  | .onConflict => !primaryKey.isEmpty
  | .merge => !primaryKey.isEmpty

/-- Columns and values of an insert. -/
def columnsAndValues (d : Dialect) (quote : Bool) (columns terms : List String) : String :=
  " (" ++ d.identifiers quote columns ++ ") VALUES (" ++ Text.join ", " terms ++ ")"

/-- The plain insert. -/
def plainInsert (d : Dialect) (quote : Bool) (table : String) (columns terms : List String) :
    String :=
  "INSERT INTO " ++ table ++ d.columnsAndValues quote columns terms

/-- The columns that an overwriting insert writes: those outside the key. -/
def outsideKey (primaryKey columns : List String) : List String :=
  columns.filter fun c => !primaryKey.contains c

/-- A MERGE up to its branches: the row to insert is a query named `SRC`, joined on the key. -/
def mergeSource (d : Dialect) (quote : Bool) (table : String)
    (primaryKey columns terms : List String) : String :=
  let source := (columns.zip terms).map fun p => p.2 ++ " " ++ d.identifier quote p.1
  let keys := primaryKey.map fun k =>
    "TMP." ++ d.identifier quote k ++ " = SRC." ++ d.identifier quote k
  "MERGE INTO " ++ table ++ " TMP USING (SELECT " ++ Text.join ", " source ++
    " FROM dual) SRC ON (" ++ Text.join " AND " keys ++ ")"

/-- The branch of a MERGE for a row that is not there yet. -/
def whenNew (d : Dialect) (quote : Bool) (columns : List String) : String :=
  " WHEN NOT MATCHED THEN INSERT (" ++ d.identifiers quote columns ++ ") VALUES (" ++
    Text.join ", " (columns.map fun c => "SRC." ++ d.identifier quote c) ++ ")"

/-- The branch of a MERGE for a row that is there; none if there is nothing to overwrite. -/
def whenMatched (d : Dialect) (quote : Bool) (columns : List String) : String :=
  if columns.isEmpty then ""
  else
    " WHEN MATCHED THEN UPDATE SET " ++
      Text.join ", " (columns.map fun c =>
        d.identifier quote c ++ " = SRC." ++ d.identifier quote c)

/-- The insert that skips rows whose key is taken. -/
def skippingInsert (d : Dialect) (quote : Bool) (table : String)
    (primaryKey columns terms : List String) : String :=
  match d.conflictForm with
  | .none => d.plainInsert quote table columns terms
  | .duplicateKey => "INSERT IGNORE INTO " ++ table ++ d.columnsAndValues quote columns terms
  | .onConflict => d.plainInsert quote table columns terms ++ " ON CONFLICT DO NOTHING"
  | .merge => d.mergeSource quote table primaryKey columns terms ++ d.whenNew quote columns

/-- What follows ON DUPLICATE KEY. -/
def onDuplicateKey (d : Dialect) (quote : Bool) (columns : List String) : String :=
  if columns.isEmpty then ""
  else
    " ON DUPLICATE KEY UPDATE " ++
      Text.join ", " (columns.map fun c =>
        d.identifier quote c ++ " = VALUES(" ++ d.identifier quote c ++ ")")

/-- What follows ON CONFLICT. Several columns are assigned as one row. -/
def onConflict (d : Dialect) (quote : Bool) (primaryKey columns : List String) : String :=
  " ON CONFLICT (" ++ d.identifiers quote primaryKey ++ ")" ++
    match columns.map (d.identifier quote) with
    | [] => " DO NOTHING"
    | [c] => " DO UPDATE SET " ++ c ++ " = EXCLUDED." ++ c
    | names =>
      " DO UPDATE SET (" ++ Text.join ", " names ++ ") = (" ++
        Text.join ", " (names.map fun c => "EXCLUDED." ++ c) ++ ")"

/-- The insert that overwrites rows whose key is taken. -/
def overwritingInsert (d : Dialect) (quote : Bool) (table : String)
    (primaryKey columns terms : List String) : String :=
  let written := outsideKey primaryKey columns
  match d.conflictForm with
  | .none => d.plainInsert quote table columns terms
  | .duplicateKey => d.plainInsert quote table columns terms ++ d.onDuplicateKey quote written
  | .onConflict =>
    d.plainInsert quote table columns terms ++ d.onConflict quote primaryKey written
  | .merge =>
    d.mergeSource quote table primaryKey columns terms ++ d.whenMatched quote written ++
      d.whenNew quote columns

/-- The dialect has a form of its own for what is to happen on a conflict. -/
def resolves (d : Dialect) (primaryKey : List String) : OnConflict → Bool
  | .plain => true
  | .skip => d.canSkip primaryKey
  | .overwrite => d.canOverwrite primaryKey

/-- The insert with a form for conflicts. -/
def insertText (d : Dialect) (quote : Bool) (table : String)
    (primaryKey columns terms : List String) : OnConflict → String
  | .plain => d.plainInsert quote table columns terms
  | .skip => d.skippingInsert quote table primaryKey columns terms
  | .overwrite => d.overwritingInsert quote table primaryKey columns terms

end DataCommand.Dialect
