import DataCommand.Backend.Basic
import DataCommand.Dialect.Conflict
import Mathlib.Data.List.Nodup

/-!
Overwriting inserts. What an insert does to a stored row with the same key is the same in every
dialect that knows such inserts: each column outside the key gets the value that the incoming row
has in it, and the columns of the key stay. The dialects have words of their own for it, one of them
with a form for a single column and another for several.
-/

namespace DataCommand

/-- An insert that overwrites a stored row with the same key. -/
structure Overwriting where
  /-- The columns of the incoming row. -/
  columns : List String
  /-- The texts of its values. -/
  terms : List String
  /-- The columns by which a stored row is found. -/
  key : List String
  /-- The columns that are overwritten, each with the column of the incoming row that its value is
  taken from. -/
  assigned : List (String × String)
  deriving DecidableEq

namespace Overwriting

/-- The insert of a row that overwrites the columns outside the key. -/
def ofRow (primaryKey columns terms : List String) : Overwriting where
  columns := columns
  terms := terms
  key := primaryKey
  assigned := (Dialect.outsideKey primaryKey columns).map fun c => (c, c)

/-- What a stored row holds afterwards. -/
def applied {α : Type} (o : Overwriting) (stored incoming : String → α) (column : String) : α :=
  match o.assigned.lookup column with
  | some source => incoming source
  | none => stored column

/-! ### The columns outside the key -/

/-- The row that is inserted is the one that was given, and of a stored row exactly the columns
outside the key are overwritten, each of them once, in order, and with its own new value. -/
structure WritesOutsideKey (o : Overwriting) (primaryKey columns terms : List String) : Prop where
  insertsColumns : o.columns = columns
  insertsTerms : o.terms = terms
  findsByKey : o.key = primaryKey
  overwrites_iff : o.assigned ≠ [] ↔ ∃ c ∈ columns, c ∉ primaryKey
  overwritten_iff : ∀ c, c ∈ o.assigned.map Prod.fst ↔ c ∈ columns ∧ c ∉ primaryKey
  once : (o.assigned.map Prod.fst).Nodup
  inOrder : (o.assigned.map Prod.fst).Sublist columns
  ownValue : ∀ p ∈ o.assigned, p.2 = p.1
  applied_eq : ∀ {α : Type} (stored incoming : String → α) (c : String),
    o.applied stored incoming c = if c ∈ columns ∧ c ∉ primaryKey then incoming c else stored c

section Row
variable {primaryKey columns terms : List String}

theorem mem_outsideKey {c : String} :
    c ∈ Dialect.outsideKey primaryKey columns ↔ c ∈ columns ∧ c ∉ primaryKey := by
  simp [Dialect.outsideKey]

theorem overwritten_ofRow :
    (ofRow primaryKey columns terms).assigned.map Prod.fst =
      Dialect.outsideKey primaryKey columns := by
  simp [ofRow, Function.comp_def]

/-- A list in which each name stands for itself. -/
theorem lookup_map_self (c : String) : ∀ names : List String,
    (names.map fun n => (n, n)).lookup c = if c ∈ names then some c else none
  | [] => rfl
  | n :: names => by
    have ih := lookup_map_self c names
    by_cases h : c = n
    · simp [h]
    · have hbeq : (c == n) = false := by simpa using h
      simp [List.lookup_cons, hbeq, h, ih]

theorem applied_ofRow {α : Type} (stored incoming : String → α) (c : String) :
    (ofRow primaryKey columns terms).applied stored incoming c =
      if c ∈ columns ∧ c ∉ primaryKey then incoming c else stored c := by
  simp only [applied, ofRow, lookup_map_self, mem_outsideKey]
  by_cases h : c ∈ columns ∧ c ∉ primaryKey
  · simp [h]
  · simp [h]

theorem writesOutsideKey_ofRow (hcolumns : columns.Nodup) :
    (ofRow primaryKey columns terms).WritesOutsideKey primaryKey columns terms where
  insertsColumns := rfl
  insertsTerms := rfl
  findsByKey := rfl
  overwrites_iff := by
    rw [ne_eq, ← List.map_eq_nil_iff (f := Prod.fst), overwritten_ofRow,
      List.eq_nil_iff_forall_not_mem, not_forall_not]
    exact exists_congr fun _ => mem_outsideKey
  overwritten_iff c := by rw [overwritten_ofRow, mem_outsideKey]
  once := by
    rw [overwritten_ofRow]
    exact hcolumns.filter _
  inOrder := by
    rw [overwritten_ofRow]
    exact List.filter_sublist
  ownValue p hp := by
    obtain ⟨c, -, rfl⟩ := List.mem_map.1 hp
    rfl
  applied_eq := applied_ofRow

end Row

/-! ### In words -/

section Text
variable (d : Dialect) (quote : Bool)

/-- Two columns, with words around them. -/
def pairText (before between behind : String) (p : String × String) : String :=
  before ++ d.identifier quote p.1 ++ between ++ d.identifier quote p.2 ++ behind

/-- What is overwritten, behind the words for it; nothing at all if nothing is. -/
def updateText (words between behind : String) : List (String × String) → String
  | [] => ""
  | pairs => words ++ Text.join ", " (pairs.map (pairText d quote "" between behind))

/-- Two lists of columns side by side, with words between them and in front of each of the second. -/
def parallelText (between before : String) (pairs : List (String × String)) : String :=
  d.identifiers quote (pairs.map Prod.fst) ++ between ++
    Text.join ", " (pairs.map fun p => before ++ d.identifier quote p.2) ++ ")"

/-- What is overwritten behind ON CONFLICT. Several columns are assigned as one row. -/
def doUpdateText : List (String × String) → String
  | [] => " DO NOTHING"
  | [p] => " DO UPDATE SET " ++ pairText d quote "" " = EXCLUDED." "" p
  | p :: q :: pairs =>
    " DO UPDATE SET (" ++ parallelText d quote ") = (" "EXCLUDED." (p :: q :: pairs)

/-- What is to be inserted. -/
def insertion (table : String) (o : Overwriting) : String :=
  match d.conflictForm with
  | .merge =>
    "MERGE INTO " ++ table ++ " TMP USING (SELECT " ++
      Text.join ", " ((o.columns.zip o.terms).map fun p => p.2 ++ " " ++ d.identifier quote p.1) ++
      " FROM dual) SRC"
  | _ => d.plainInsert quote table o.columns o.terms

/-- What is to happen to a stored row; in a MERGE also what is to happen to a new one. -/
def conflict (o : Overwriting) : String :=
  match d.conflictForm with
  | .none => ""
  | .duplicateKey => updateText d quote " ON DUPLICATE KEY UPDATE " " = VALUES(" ")" o.assigned
  | .onConflict =>
    " ON CONFLICT (" ++ d.identifiers quote o.key ++ ")" ++ doUpdateText d quote o.assigned
  | .merge =>
    " ON (" ++
      Text.join " AND " ((o.key.map fun k => (k, k)).map (pairText d quote "TMP." " = SRC." "")) ++
      ")" ++
      updateText d quote " WHEN MATCHED THEN UPDATE SET " " = SRC." "" o.assigned ++
      " WHEN NOT MATCHED THEN INSERT (" ++
      parallelText d quote ") VALUES (" "SRC." (o.columns.map fun c => (c, c))

variable {d}

theorem onDuplicateKey_eq (written : List String) :
    d.onDuplicateKey quote written =
      updateText d quote " ON DUPLICATE KEY UPDATE " " = VALUES(" ")"
        (written.map fun c => (c, c)) := by
  cases written with
  | nil => rfl
  | cons c rest =>
    simp [Dialect.onDuplicateKey, updateText, pairText, Function.comp_def, String.append_assoc]

theorem whenMatched_eq (written : List String) :
    d.whenMatched quote written =
      updateText d quote " WHEN MATCHED THEN UPDATE SET " " = SRC." ""
        (written.map fun c => (c, c)) := by
  cases written with
  | nil => rfl
  | cons c rest =>
    simp [Dialect.whenMatched, updateText, pairText, Function.comp_def, String.append_assoc]

theorem onConflict_eq (primaryKey written : List String) :
    d.onConflict quote primaryKey written =
      " ON CONFLICT (" ++ d.identifiers quote primaryKey ++ ")" ++
        doUpdateText d quote (written.map fun c => (c, c)) := by
  unfold Dialect.onConflict doUpdateText
  match written with
  | [] => simp
  | [c] => simp [pairText, String.append_assoc]
  | c :: other :: rest =>
    simp [parallelText, Dialect.identifiers, Function.comp_def, String.append_assoc]

variable (table : String) (primaryKey columns terms : List String)

/-- An overwriting insert says what is to be inserted and what is to be overwritten, and no more. -/
theorem overwritingInsert_eq (hform : d.conflictForm ≠ .none) :
    d.overwritingInsert quote table primaryKey columns terms =
      (ofRow primaryKey columns terms).insertion d quote table ++
        (ofRow primaryKey columns terms).conflict d quote := by
  cases hd : d.conflictForm with
  | none => exact absurd hd hform
  | duplicateKey =>
    simp only [Dialect.overwritingInsert, hd, insertion, conflict, ofRow, onDuplicateKey_eq]
  | onConflict =>
    simp only [Dialect.overwritingInsert, hd, insertion, conflict, ofRow, onConflict_eq]
  | merge =>
    -- The text is cut where the query with the new row ends.
    have hsource (s : String) :
        " FROM dual) SRC" ++ (" ON (" ++ s) = " FROM dual) SRC ON (" ++ s := by
      rw [← String.append_assoc]
      simp
    simp only [Dialect.overwritingInsert, hd, insertion, conflict, ofRow, whenMatched_eq]
    unfold Dialect.mergeSource Dialect.whenNew
    simp [pairText, parallelText, hsource, Function.comp_def, String.append_assoc]

end Text

end Overwriting

end DataCommand
