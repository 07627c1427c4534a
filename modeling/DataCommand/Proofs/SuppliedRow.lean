import DataCommand.Proofs.Merge
import DataCommand.Proofs.Parts.Interleaving
import Mathlib.Data.List.Nodup

/-!
Rows and the inserts that are written of them. What is supplied goes into two lists, one of columns
and one of values, and the first value of a column is the one that counts until all is reset. An
insert writes both lists and binds a third, so that columns, texts of values and bound values have
to be in the same order in all of them, in each form for conflicts.
-/

namespace DataCommand

/-! ### What is supplied -/

/-- All that was supplied once a move is made, if `earlier` was before it. Columns that come again
count, refused as they are; a reset forgets everything. -/
def suppliedAfter (earlier : List Assignment) : Move → List Assignment
  | .call (.supply column value term) => Assignment.push column value term earlier
  | .call .clear => []
  | _ => earlier

/-- All that some moves supply since the last reset. -/
def suppliedBy (moves : List Move) : List Assignment := moves.foldl suppliedAfter []

/-- The first assignment to each column. -/
def firstOfEachColumn : List Assignment → List Assignment
  | [] => []
  | a :: rest => a :: (firstOfEachColumn rest).filter fun later => later.column != a.column

theorem nodup_firstOfEachColumn : ∀ supplied : List Assignment,
    ((firstOfEachColumn supplied).map Assignment.column).Nodup
  | [] => List.nodup_nil
  | a :: rest => by
    rw [firstOfEachColumn, List.map_cons, List.nodup_cons]
    refine ⟨by simp, ?_⟩
    exact (nodup_firstOfEachColumn rest).sublist (List.filter_sublist.map _)

/-- No column is lost. -/
theorem mem_columns_firstOfEachColumn {column : String} : ∀ {supplied : List Assignment},
    column ∈ (firstOfEachColumn supplied).map Assignment.column ↔
      column ∈ supplied.map Assignment.column
  | [] => Iff.rfl
  | a :: rest => by
    have ih := @mem_columns_firstOfEachColumn column rest
    rw [firstOfEachColumn, List.map_cons, List.map_cons, List.mem_cons, List.mem_cons, ← ih]
    refine or_congr_right' fun hother => ⟨fun hlater => ?_, fun hlater => ?_⟩
    · exact List.map_subset _ List.filter_sublist.subset hlater
    · obtain ⟨later, hmem, rfl⟩ := List.mem_map.1 hlater
      exact List.mem_map_of_mem (List.mem_filter.2 ⟨hmem, by simpa using hother⟩)

/-- One more assignment is the first one to its column, or it makes no difference. -/
theorem firstOfEachColumn_concat (a : Assignment) : ∀ supplied : List Assignment,
    firstOfEachColumn (supplied ++ [a]) =
      if a.column ∈ supplied.map Assignment.column then firstOfEachColumn supplied
      else firstOfEachColumn supplied ++ [a]
  | [] => rfl
  | first :: rest => by
    rw [List.cons_append, firstOfEachColumn, firstOfEachColumn_concat a rest, List.map_cons]
    by_cases hrest : a.column ∈ rest.map Assignment.column
    · rw [if_pos hrest, if_pos (List.mem_cons_of_mem _ hrest), firstOfEachColumn]
    · rw [if_neg hrest, List.filter_append]
      by_cases hfirst : a.column = first.column
      · rw [if_pos (by simp [hfirst])]
        simp [hfirst, firstOfEachColumn]
      · rw [if_neg (by simpa [hfirst] using hrest)]
        simp [hfirst, firstOfEachColumn]

/-! ### What is kept -/

/-- The row after a move. A column that is there already is refused; a reset empties the row. -/
def rowAfter (row : List Assignment) : Move → List Assignment
  | .call (.supply column value term) =>
    if column ∈ row.map Assignment.column then row else Assignment.push column value term row
  | .call .clear => []
  | _ => row

/-- The first assignments to columns are those of the moves before, and one more if the move is the
first to supply its column. -/
theorem firstOfEachColumn_suppliedAfter (supplied : List Assignment) (m : Move) :
    firstOfEachColumn (suppliedAfter supplied m) = rowAfter (firstOfEachColumn supplied) m := by
  cases m with
  | call c =>
    cases c with
    | supply column value term =>
      simp only [suppliedAfter, rowAfter, Assignment.push, firstOfEachColumn_concat,
        mem_columns_firstOfEachColumn]
    | _ => rfl
  | _ => rfl

/-- Columns and values in two lists, which nothing but the calls keeps side by side. -/
structure RowLists where
  columns : List String := []
  values : List (Value × Option String) := []

namespace RowLists

/-- The two lists after a move. -/
def step (lists : RowLists) : Move → RowLists
  | .call (.supply column value term) =>
    if column ∈ lists.columns then lists
    else ⟨lists.columns ++ [column], lists.values ++ [(value, Text.unlessBlank term)]⟩
  | .call .clear => {}
  | _ => lists

/-- The lists of a row. -/
def ofRow (row : List Assignment) : RowLists :=
  ⟨row.map Assignment.column, row.map fun a => (a.value, a.term)⟩

theorem step_ofRow (row : List Assignment) (m : Move) :
    (ofRow row).step m = ofRow (rowAfter row m) := by
  cases m with
  | call c =>
    cases c with
    | supply column value term =>
      by_cases h : column ∈ row.map Assignment.column <;>
        simp only [step, rowAfter, ofRow, Assignment.push, h, if_true, if_false, List.map_append,
          List.map_cons, List.map_nil]
    | _ => rfl
  | _ => rfl

end RowLists

namespace SqlCommand

/-- The values of the row to insert, each with the expression around it. -/
def values (b : SqlCommand) : List (Value × Option String) := b.row.map fun a => (a.value, a.term)

/-- A column that is there already is refused and changes nothing, and any other comes to the end of
the row. -/
theorem call_supply (column : String) (value : Value) (term : Option String) (b : SqlCommand) :
    call (.supply column value term) b =
      if column ∈ b.columns then (.error (.invalid (.suppliedTwice column)), b)
      else (.ok (), { b with row := Assignment.push column value term b.row }) := by
  have hany : (b.row.any fun a => a.column == column) = decide (column ∈ b.columns) := by
    rw [Bool.eq_iff_iff]
    simp [columns]
  by_cases h : column ∈ b.columns <;> simp [call, Assignment.pushNew, hany, h]

theorem row_call (c : Call) (b : SqlCommand) : (call c b).2.row = rowAfter b.row (.call c) := by
  cases hpart : c.part? with
  | none =>
    cases c with
    | clear => rfl
    | _ => simp [Call.part?] at hpart
  | some p =>
    by_cases hp : p = .row
    · cases c with
      | supply column value term =>
        rw [call_supply, rowAfter, columns]
        split <;> rfl
      | _ => simp_all [Call.part?]
    · have honly : only .row (call c b).2 = only .row b := call_other hpart (Ne.symm hp) b
      have hrow : (call c b).2.row = b.row := (congrArg row honly :)
      rw [hrow]
      cases c <;> first | rfl | simp_all [Call.part?]

theorem row_step {s t : Session SqlCommand} {m : Move} (h : s.Moved m t) :
    t.command.row = rowAfter s.command.row m := by
  cases h with
  | called c => exact row_call c s.command
  | rendered | refused | opened | unopened | undone | closed => rfl

/-- What the moves make of the row, one after the other. -/
theorem row_run : ∀ (moves : List Move) (s : Session SqlCommand),
    (s.run moves).command.row = moves.foldl rowAfter s.command.row
  | [], _ => rfl
  | m :: rest, s => by
    rw [List.foldl_cons, ← row_step (s.moved_step m)]
    exact row_run rest (s.step m)

end SqlCommand

/-- The row has what was supplied first for each column. -/
theorem foldl_rowAfter_eq_firstOfEachColumn (moves : List Move) :
    moves.foldl rowAfter [] = firstOfEachColumn (suppliedBy moves) := by
  show moves.foldl rowAfter (firstOfEachColumn []) = _
  exact List.foldl_hom firstOfEachColumn fun supplied m =>
    (firstOfEachColumn_suppliedAfter supplied m).symm

/-- Two lists are kept side by side, as in one. -/
theorem foldl_step_eq_ofRow (moves : List Move) :
    moves.foldl RowLists.step {} = .ofRow (moves.foldl rowAfter []) := by
  show moves.foldl RowLists.step (.ofRow []) = _
  exact List.foldl_hom RowLists.ofRow RowLists.step_ofRow

namespace SqlCommand

/-! ### What is written -/

/-- The text inserts the row of a command. Columns and values stand in two lists, each in the order
of the row; or a query has every value under the name of its column, and a new row takes each
column from there. -/
inductive InsertsRow (d : Dialect) (quote : Bool) (primaryKey : List String) (b : SqlCommand) :
    String → Prop
  | listed {words conflict : String} {names terms : List String}
      (hwords : words ∈ ["INSERT INTO ", "INSERT IGNORE INTO "])
      (hnames : names = b.row.map fun a => d.identifier quote a.column)
      (hterms : terms = b.row.map fun a => a.term.getD "?")
      (hconflict : conflict ∈ ["", " ON CONFLICT DO NOTHING",
        d.onDuplicateKey quote (Dialect.outsideKey primaryKey b.columns),
        d.onConflict quote primaryKey (Dialect.outsideKey primaryKey b.columns)]) :
      InsertsRow d quote primaryKey b
        (words ++ d.targetText quote b.target ++
          (" (" ++ Text.join ", " names ++ ") VALUES (" ++ Text.join ", " terms ++ ")") ++ conflict)
  | merged {m : Merge} (htable : m.table = d.targetText quote b.target)
      (hsource : m.source = b.row.map fun a => (a.term.getD "?", d.identifier quote a.column))
      (hinserted : m.inserted = b.row.map fun a => d.identifier quote a.column) :
      InsertsRow d quote primaryKey b m.text

section Text
variable (d : Dialect) (quote : Bool) (primaryKey : List String) (b : SqlCommand)

theorem columnsAndValues_row :
    d.columnsAndValues quote b.columns (b.row.map fun a => a.term.getD "?") =
      " (" ++ Text.join ", " (b.row.map fun a => d.identifier quote a.column) ++ ") VALUES (" ++
        Text.join ", " (b.row.map fun a => a.term.getD "?") ++ ")" := by
  rw [Dialect.columnsAndValues, Dialect.identifiers, columns, List.map_map]
  rfl

/-- Words, columns, values and what is to happen on a conflict insert the row. -/
theorem insertsRow_listed (words conflict : String)
    (hwords : words ∈ ["INSERT INTO ", "INSERT IGNORE INTO "])
    (hconflict : conflict ∈ ["", " ON CONFLICT DO NOTHING",
      d.onDuplicateKey quote (Dialect.outsideKey primaryKey b.columns),
      d.onConflict quote primaryKey (Dialect.outsideKey primaryKey b.columns)]) :
    InsertsRow d quote primaryKey b
      (words ++ d.targetText quote b.target ++
        d.columnsAndValues quote b.columns (b.row.map fun a => a.term.getD "?") ++ conflict) := by
  rw [columnsAndValues_row]
  exact .listed hwords rfl rfl hconflict

theorem insertsRow_merge {d : Dialect} {asked : OnConflict} (hform : d.conflictForm = .merge)
    (hasked : asked ≠ .plain) :
    InsertsRow d quote primaryKey b (b.insertText d quote primaryKey asked).text := by
  rw [b.insertText_eq_merge quote primaryKey hform hasked]
  refine .merged (b.table_merge d quote primaryKey asked)
    (b.source_merge d quote primaryKey asked) ?_
  rw [inserted_merge, columns, List.map_map]
  rfl

/-- Whatever is to happen on a conflict, the text inserts the row. -/
theorem insertsRow_insertText (asked : OnConflict) :
    InsertsRow d quote primaryKey b (b.insertText d quote primaryKey asked).text := by
  have hplain : InsertsRow d quote primaryKey b
      (d.plainInsert quote (d.targetText quote b.target) b.columns
        (b.row.map fun a => a.term.getD "?")) := by
    have h := b.insertsRow_listed d quote primaryKey "INSERT INTO " "" (by simp) (by simp)
    rwa [String.append_empty] at h
  cases asked with
  | plain => exact hplain
  | skip =>
    by_cases hmerge : d.conflictForm = .merge
    · exact b.insertsRow_merge quote primaryKey hmerge (by simp)
    show InsertsRow d quote primaryKey b (d.skippingInsert quote _ primaryKey b.columns _)
    unfold Dialect.skippingInsert
    cases hform : d.conflictForm with
    | none => exact hplain
    | duplicateKey =>
      have h := b.insertsRow_listed d quote primaryKey "INSERT IGNORE INTO " "" (by simp) (by simp)
      rwa [String.append_empty] at h
    | onConflict => exact b.insertsRow_listed d quote primaryKey _ _ (by simp) (by simp)
    | merge => exact absurd hform hmerge
  | overwrite =>
    by_cases hmerge : d.conflictForm = .merge
    · exact b.insertsRow_merge quote primaryKey hmerge (by simp)
    show InsertsRow d quote primaryKey b (d.overwritingInsert quote _ primaryKey b.columns _)
    unfold Dialect.overwritingInsert
    cases hform : d.conflictForm with
    | none => exact hplain
    | duplicateKey | onConflict =>
      exact b.insertsRow_listed d quote primaryKey _ _ (by simp) (by simp)
    | merge => exact absurd hform hmerge

end Text

end SqlCommand

/-- After any moves, refused columns and resets among them, the columns and the values of a
relational command are two lists of one length, as if each was kept by itself. A column is there
once, with the value that was supplied first for it since the last reset. An insert has one order
for the columns, the texts of their values and the values that it binds behind earlier ones, in
every dialect and whatever is to happen on a conflict. Quoted names are as different as the columns,
so that in a MERGE each of them stands for one value. -/
theorem insert_keeps_columns_with_values (moves : List Move) :
    let b := (Session.run ⟨({} : SqlCommand), []⟩ moves).command
    moves.foldl RowLists.step {} = ⟨b.columns, b.values⟩ ∧
    b.columns.Nodup ∧ b.columns.length = b.values.length ∧
    b.row = firstOfEachColumn (suppliedBy moves) ∧
    ∀ (d : Dialect) (quote : Bool) (primaryKey : List String) (asked : OnConflict),
      (b.row ≠ [] → ∃ s, (b.render (.insert primaryKey asked) d quote).result = .ok s ∧
        b.InsertsRow d quote primaryKey s.text ∧
        s.args = b.args ++ b.values.map Prod.fst) ∧
      (quote = true → d.naming = .delimited → (b.columns.map (d.identifier quote)).Nodup) := by
  intro b
  have hrun : b.row = moves.foldl rowAfter [] := SqlCommand.row_run moves ⟨{}, []⟩
  have hrow : b.row = firstOfEachColumn (suppliedBy moves) :=
    hrun.trans (foldl_rowAfter_eq_firstOfEachColumn moves)
  have hcolumns : b.columns.Nodup := by
    rw [SqlCommand.columns, hrow]
    exact nodup_firstOfEachColumn _
  have hlists : moves.foldl RowLists.step {} = ⟨b.columns, b.values⟩ := by
    rw [foldl_step_eq_ofRow, ← hrun]
    rfl
  refine ⟨hlists, hcolumns, by simp [SqlCommand.columns, SqlCommand.values], hrow, ?_⟩
  intro d quote primaryKey asked
  refine ⟨fun hne => ?_, ?_⟩
  · have hvalues : b.row.map Assignment.value = b.values.map Prod.fst := by
      rw [SqlCommand.values, List.map_map]
      rfl
    rw [SqlCommand.render_insert hne asked]
    refine ⟨_, rfl, b.insertsRow_insertText d quote primaryKey _, ?_⟩
    rw [← hvalues]
    rfl
  · rintro rfl hnaming
    exact List.Nodup.map (Dialect.identifier_quoted_injective hnaming) hcolumns

/-- A column that is supplied before a reset, and one that is supplied twice after it. -/
def suppliedAgain : List Move := [
  .call (.supply "old" (.int 0) none), .call .clear, .call (.setTarget { table := "t" }),
  .call (.supply "id" (.int 1) none), .call (.supply "label" (.int 2) (some "abs(?)")),
  .call (.supply "id" (.int 3) none)]

/-- The value that came too late is not inserted, and the others stay with their columns. -/
theorem insert_keeps_columns_with_values_suppliedAgain :
    let b := (Session.run ⟨({} : SqlCommand), []⟩ suppliedAgain).command
    b.row ≠ [] ∧ b.columns = ["id", "label"] ∧
      ∃ s, (b.render (.insert ["id"] .overwrite) .oracle false).result = .ok s ∧
        s.text = "MERGE INTO t TMP USING (SELECT ? id, abs(?) label FROM dual) SRC" ++
          " ON (TMP.id = SRC.id) WHEN MATCHED THEN UPDATE SET label = SRC.label" ++
          " WHEN NOT MATCHED THEN INSERT (id, label) VALUES (SRC.id, SRC.label)" ∧
        s.args = [.int 1, .int 2] ∧
        (b.columns.map (Dialect.oracle.identifier true)).Nodup := by
  intro b
  have hne : b.row ≠ [] := List.cons_ne_nil _ _
  obtain ⟨-, -, -, -, hinsert⟩ := insert_keeps_columns_with_values suppliedAgain
  obtain ⟨s, hs, -, hargs⟩ := (hinsert .oracle false ["id"] .overwrite).1 hne
  have hnames := (hinsert .oracle true ["id"] .overwrite).2 rfl rfl
  have hanswer : (b.render (.insert ["id"] .overwrite) .oracle false).result = .ok _ := rfl
  obtain rfl := Except.ok.inj (hs.symm.trans hanswer)
  exact ⟨hne, rfl, _, hanswer, by decide +kernel, hargs, hnames⟩

end DataCommand
