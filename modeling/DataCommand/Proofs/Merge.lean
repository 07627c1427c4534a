import DataCommand.Proofs.Identifier
import DataCommand.Proofs.Weakening

/-!
Columns that a MERGE refers to. The row to insert is a query named `SRC`, which has the inserted
columns, and the rest of the statement takes columns from it: the key in its condition, and the
columns to overwrite and to insert in its branches. A dialect decides for a MERGE by the key alone,
so the condition may refer to a column that the query does not have.
-/

namespace DataCommand

/-- A MERGE of one row, with all names as they are written. -/
structure Merge where
  table : String
  /-- The row as a query named `SRC`: texts of values under the names of their columns. -/
  source : List (String × String)
  /-- The columns by which a row is found to be there already. -/
  joined : List String
  /-- The columns that are overwritten in a row that is there. -/
  overwritten : List String
  /-- The columns of a new row. -/
  inserted : List String

namespace Merge

/-- The columns that the query has. -/
def supplied (m : Merge) : List String := m.source.map Prod.snd

/-- The columns that are taken from the query: in the condition, the update and the insert. -/
def references (m : Merge) : List String := m.joined ++ m.overwritten ++ m.inserted

/-- The statement up to its branches. -/
def head (m : Merge) : String :=
  "MERGE INTO " ++ m.table ++ " TMP USING (SELECT " ++
    Text.join ", " (m.source.map fun p => p.1 ++ " " ++ p.2) ++ " FROM dual) SRC ON (" ++
    Text.join " AND " (m.joined.map fun k => "TMP." ++ k ++ " = SRC." ++ k) ++ ")"

/-- What is done with a row that is there, if anything. -/
def update (m : Merge) : String :=
  if m.overwritten.isEmpty then ""
  else
    " WHEN MATCHED THEN UPDATE SET " ++
      Text.join ", " (m.overwritten.map fun c => c ++ " = SRC." ++ c)

/-- What is done with a new row. -/
def insert (m : Merge) : String :=
  " WHEN NOT MATCHED THEN INSERT (" ++ Text.join ", " m.inserted ++ ") VALUES (" ++
    Text.join ", " (m.inserted.map fun c => "SRC." ++ c) ++ ")"

/-- The statement. -/
def text (m : Merge) : String := m.head ++ m.update ++ m.insert

end Merge

namespace SqlCommand
variable (d : Dialect) (quote : Bool) (primaryKey : List String) (asked : OnConflict)
  (b : SqlCommand)

/-- The columns of the row to insert. -/
def columns : List String := b.row.map Assignment.column

/-- The MERGE for the row of a command. -/
def merge : Merge where
  table := d.targetText quote b.target
  source := b.row.map fun a => (a.term.getD "?", d.identifier quote a.column)
  joined := primaryKey.map (d.identifier quote)
  overwritten :=
    match asked with
    | .overwrite => (Dialect.outsideKey primaryKey b.columns).map (d.identifier quote)
    | .skip | .plain => []
  inserted := b.columns.map (d.identifier quote)

theorem table_merge : (b.merge d quote primaryKey asked).table = d.targetText quote b.target := rfl

theorem source_merge : (b.merge d quote primaryKey asked).source =
    b.row.map fun a => (a.term.getD "?", d.identifier quote a.column) := rfl

theorem joined_merge :
    (b.merge d quote primaryKey asked).joined = primaryKey.map (d.identifier quote) := rfl

theorem inserted_merge :
    (b.merge d quote primaryKey asked).inserted = b.columns.map (d.identifier quote) := rfl

theorem supplied_merge :
    (b.merge d quote primaryKey asked).supplied = b.columns.map (d.identifier quote) := by
  simp [merge, Merge.supplied, columns, Function.comp_def]

/-- Nothing but the condition can refer to a column that the query does not have. -/
theorem references_subset_supplied_iff :
    (b.merge d quote primaryKey asked).references ⊆ (b.merge d quote primaryKey asked).supplied ↔
      ∀ k ∈ primaryKey, d.identifier quote k ∈ b.columns.map (d.identifier quote) := by
  have hwritten : (b.merge d quote primaryKey asked).overwritten ⊆
      b.columns.map (d.identifier quote) := by
    cases asked with
    | overwrite => exact List.map_subset _ List.filter_sublist.subset
    | skip | plain => exact List.nil_subset _
  rw [supplied_merge, Merge.references, List.append_subset, List.append_subset]
  constructor
  · rintro ⟨⟨hjoined, -⟩, -⟩ k hk
    exact hjoined (List.mem_map_of_mem hk)
  · intro hkey
    refine ⟨⟨?_, hwritten⟩, List.Subset.refl _⟩
    intro name hname
    obtain ⟨k, hk, rfl⟩ := List.mem_map.1 hname
    exact hkey k hk

/-- A dialect with MERGE resolves conflicts as soon as there is a key to join on. -/
theorem resolves_iff_of_merge {d : Dialect} {primaryKey : List String} {asked : OnConflict}
    (hform : d.conflictForm = .merge) (hasked : asked ≠ .plain) :
    d.resolves primaryKey asked = true ↔ primaryKey ≠ [] := by
  cases asked with
  | plain => exact absurd rfl hasked
  | skip | overwrite => simp [Dialect.resolves, Dialect.canSkip, Dialect.canOverwrite, hform]

theorem mergeSource_eq_head :
    d.mergeSource quote (d.targetText quote b.target) primaryKey b.columns
      (b.row.map fun a => a.term.getD "?") = (b.merge d quote primaryKey asked).head := by
  have hsource : (b.columns.zip (b.row.map fun a => a.term.getD "?")).map
        (fun p => p.2 ++ " " ++ d.identifier quote p.1) =
      (b.merge d quote primaryKey asked).source.map fun p => p.1 ++ " " ++ p.2 := by
    rw [columns, source_merge, List.zip_map', List.map_map, List.map_map]
    rfl
  have hkeys : (primaryKey.map fun k =>
        "TMP." ++ d.identifier quote k ++ " = SRC." ++ d.identifier quote k) =
      (b.merge d quote primaryKey asked).joined.map fun k => "TMP." ++ k ++ " = SRC." ++ k := by
    rw [joined_merge, List.map_map]
    rfl
  unfold Dialect.mergeSource Merge.head
  rw [hsource, hkeys, table_merge]

theorem whenNew_eq_insert :
    d.whenNew quote b.columns = (b.merge d quote primaryKey asked).insert := by
  have hvalues : (b.columns.map fun c => "SRC." ++ d.identifier quote c) =
      (b.columns.map (d.identifier quote)).map fun c => "SRC." ++ c := by
    rw [List.map_map]
    rfl
  unfold Dialect.whenNew Dialect.identifiers Merge.insert
  rw [hvalues, inserted_merge]

theorem whenMatched_eq_update :
    d.whenMatched quote (Dialect.outsideKey primaryKey b.columns) =
      (b.merge d quote primaryKey .overwrite).update := by
  simp only [Dialect.whenMatched, Merge.update, merge, List.map_map, List.isEmpty_map,
    Function.comp_def]

/-- What such a dialect writes then is the MERGE. -/
theorem insertText_eq_merge {d : Dialect} {asked : OnConflict} (hform : d.conflictForm = .merge)
    (hasked : asked ≠ .plain) :
    (b.insertText d quote primaryKey asked).text = (b.merge d quote primaryKey asked).text := by
  cases asked with
  | plain => exact absurd rfl hasked
  | skip =>
    show d.skippingInsert quote _ primaryKey b.columns _ = _
    have hupdate : (b.merge d quote primaryKey .skip).update = "" := rfl
    simp only [Dialect.skippingInsert, hform]
    rw [mergeSource_eq_head d quote primaryKey .skip b,
      whenNew_eq_insert d quote primaryKey .skip b, Merge.text, hupdate, String.append_empty]
  | overwrite =>
    show d.overwritingInsert quote _ primaryKey b.columns _ = _
    simp only [Dialect.overwritingInsert, hform]
    rw [mergeSource_eq_head d quote primaryKey .overwrite b,
      whenNew_eq_insert d quote primaryKey .overwrite b, whenMatched_eq_update, Merge.text]

end SqlCommand

section Oracle
variable (quote : Bool) (primaryKey : List String) {asked : OnConflict}

/-- An insert that meets conflicts is a MERGE in Oracle as soon as there is a key, and else a plain
insert. The MERGE refers only to columns that it supplies exactly if every column of the key is
written like one of the inserted columns; with all names quoted, if it is one of them. -/
theorem merge_refers_to_supplied_iff (hasked : asked ≠ .plain) {b : SqlCommand}
    (hrow : b.row ≠ []) :
    ∃ s p, (b.render (.insert primaryKey asked) .oracle quote).result = .ok s ∧
      (b.render (.insert primaryKey .plain) .oracle quote).result = .ok p ∧
      (primaryKey = [] → s.text = p.text) ∧
      (primaryKey ≠ [] →
        let m := b.merge .oracle quote primaryKey asked
        s.text = m.text ∧ s.text ≠ p.text ∧
          (m.references ⊆ m.supplied ↔
            ∀ k ∈ primaryKey, Dialect.oracle.identifier quote k ∈ m.supplied) ∧
          (primaryKey ⊆ b.columns → m.references ⊆ m.supplied) ∧
          (quote = true → m.references ⊆ m.supplied → primaryKey ⊆ b.columns)) := by
  have hresolves : Dialect.oracle.resolves primaryKey asked = true ↔ primaryKey ≠ [] :=
    SqlCommand.resolves_iff_of_merge rfl hasked
  rw [SqlCommand.render_insert hrow asked, SqlCommand.render_insert hrow .plain]
  refine ⟨_, _, rfl, rfl, fun hkey => ?_, fun hkey => ?_⟩
  · have hplain : (asked.weaken .oracle primaryKey).1 = .plain := by
      rw [OnConflict.weaken, if_neg fun h => hresolves.1 h hkey]
    rw [hplain]
    rfl
  · have hsame : (asked.weaken .oracle primaryKey).1 = asked := by
      rw [OnConflict.weaken, if_pos (hresolves.2 hkey)]
    have hmerge := b.insertText_eq_merge quote primaryKey (d := .oracle) rfl hasked
    have hother := (Dialect.oracle.insertText_eq_plainInsert_iff quote
      (Dialect.oracle.targetText quote b.target) primaryKey b.columns
      (b.row.map fun a => a.term.getD "?") hasked (hresolves.2 hkey)).not.2
        (by simp [Dialect.oracle])
    have hsubset := b.references_subset_supplied_iff .oracle quote primaryKey asked
    simp only [SqlCommand.supplied_merge] at hsubset ⊢
    refine ⟨by rw [hsame]; exact hmerge, by rw [hsame]; exact hother, hsubset, ?_, ?_⟩
    · exact fun hcolumns => hsubset.2 fun k hk => List.mem_map_of_mem (hcolumns hk)
    · rintro rfl hsupplied k hk
      have hwritten := hsubset.1 hsupplied k hk
      rwa [List.mem_map_of_injective (Dialect.identifier_quoted_injective rfl)] at hwritten

/-- A row without the column of the key. -/
def keyless : SqlCommand :=
  { target := { table := "t" }, row := [⟨"b", .int 1, none⟩] }

/-- A key that is not inserted is compared all the same, with a column that is not there. -/
theorem merge_refers_to_supplied_iff_keyless :
    OnConflict.skip ≠ .plain ∧ keyless.row ≠ [] ∧
      let m := keyless.merge .oracle false ["id"] .skip
      (keyless.render (.insert ["id"] .skip) .oracle false).result.toOption.map Statement.text =
          some m.text ∧
        m.text = "MERGE INTO t TMP USING (SELECT ? b FROM dual) SRC ON (TMP.id = SRC.id)" ++
          " WHEN NOT MATCHED THEN INSERT (b) VALUES (SRC.b)" ∧
        m.joined = ["id"] ∧ m.supplied = ["b"] ∧ ¬ m.references ⊆ m.supplied := by
  have hasked : OnConflict.skip ≠ .plain := by simp
  have hrow : keyless.row ≠ [] := by simp [keyless]
  obtain ⟨s, p, hs, -, -, hmerge⟩ :=
    merge_refers_to_supplied_iff false ["id"] hasked hrow
  obtain ⟨htext, -, hsubset, -⟩ := hmerge (by simp)
  refine ⟨hasked, hrow, ?_, by decide +kernel, by rfl, by rfl, ?_⟩
  · rw [hs]
    exact congrArg some htext
  · rw [hsubset]
    decide

end Oracle

end DataCommand
