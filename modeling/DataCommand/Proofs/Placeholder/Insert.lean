import DataCommand.Builder.Basic
import DataCommand.Proofs.Placeholder.Fragment
import Mathlib.Data.List.Basic

/-!
Assignments and inserts. An insert binds every value of its row in the order of the columns, in
whatever form a dialect writes it; names around the values have no marks.
-/

namespace DataCommand

open Text

namespace Assignment

/-- The value of an assignment, with the text that stands for it. -/
def operand (a : Assignment) : Statement := .bound (a.term.getD "?") a.value

/-- What an assignment binds where nulls are written out. -/
def bindings (a : Assignment) : List Statement := if a.isBareNull then [] else [a.operand]

/-- The column has no mark, and an expression around the value has one. -/
structure Templated (a : Assignment) : Prop where
  column : marks a.column = 0
  term : IsTemplate a.term

theorem Templated.woven_operand {a : Assignment} (ha : a.Templated) : Woven [a.operand] a.operand :=
  .bound ha.term.marks_getD a.value

end Assignment

namespace Dialect
variable {d : Dialect} (hd : d.Unmarked) (quote : Bool) {table : String} (htable : marks table = 0)
  {primaryKey : List String} (hkey : ∀ k ∈ primaryKey, marks k = 0)
  {row : List Assignment} (hrow : ∀ a ∈ row, a.Templated)

/-- Something of every name, with a separator between neighbours. -/
theorem marks_join_map {names : List String} (h : ∀ n ∈ names, marks n = 0) (separator : String)
    (hsep : marks separator = 0) (f : String → String) (hf : ∀ n, marks n = 0 → marks (f n) = 0) :
    marks (Text.join separator (names.map f)) = 0 :=
  marks_join hsep _ (List.forall_mem_map.2 fun n hn => hf n (h n hn))

section Clauses
variable {columns : List String} (hcolumns : ∀ c ∈ columns, marks c = 0)
include hd hcolumns

theorem marks_whenNew : marks (d.whenNew quote columns) = 0 := by
  have hsources := marks_join_map hcolumns ", " rfl
    (fun c => "SRC." ++ d.identifier quote c)
    fun c hc => by simp only [marks_append, hd.identifier quote hc]; rfl
  have hnames := hd.identifiers quote hcolumns
  unfold whenNew
  simp only [marks_append, hnames, hsources]
  rfl

theorem marks_whenMatched : marks (d.whenMatched quote columns) = 0 := by
  have hassigned := marks_join_map hcolumns ", " rfl
    (fun c => d.identifier quote c ++ " = SRC." ++ d.identifier quote c)
    fun c hc => by simp only [marks_append, hd.identifier quote hc]; rfl
  unfold whenMatched
  split
  · rfl
  · simp only [marks_append, hassigned]
    rfl

theorem marks_onDuplicateKey : marks (d.onDuplicateKey quote columns) = 0 := by
  have hassigned := marks_join_map hcolumns ", " rfl
    (fun c => d.identifier quote c ++ " = VALUES(" ++ d.identifier quote c ++ ")")
    fun c hc => by simp only [marks_append, hd.identifier quote hc]; rfl
  unfold onDuplicateKey
  split
  · rfl
  · simp only [marks_append, hassigned]
    rfl

include hkey

theorem marks_onConflict : marks (d.onConflict quote primaryKey columns) = 0 := by
  have hnames : ∀ n ∈ columns.map (d.identifier quote), marks n = 0 :=
    List.forall_mem_map.2 fun c hc => hd.identifier quote (hcolumns c hc)
  have hkeys := hd.identifiers quote hkey
  unfold onConflict
  split
  · simp only [marks_append, hkeys]
    rfl
  · rename_i c hc
    have hc : marks c = 0 := hnames c (by simp [hc])
    simp only [marks_append, hkeys, hc]
    rfl
  · have hrow := marks_join (show marks ", " = 0 from rfl) _ hnames
    have hexcluded := marks_join_map hnames ", " rfl
      (fun c => "EXCLUDED." ++ c)
      fun c hc => by simp only [marks_append, hc]; rfl
    simp only [marks_append, hkeys, hrow, hexcluded]
    rfl

end Clauses

include hrow

/-- The values of a row with a separator between neighbours, each with a name behind it. -/
theorem woven_row (separator : String) (hsep : marks separator = 0) (behind : Assignment → String)
    (hbehind : ∀ a ∈ row, marks (behind a) = 0) :
    Woven (row.map Assignment.operand)
      ⟨Text.join separator (row.map fun a => a.term.getD "?" ++ behind a),
        row.map Assignment.value⟩ := by
  have h := Woven.join hsep row fun a ha =>
    ((hrow a ha).woven_operand).append_plain (hbehind a ha)
  have hsum : Statement.join separator (row.map fun a => a.operand ++ .plain (behind a)) =
      ⟨Text.join separator (row.map fun a => a.term.getD "?" ++ behind a),
        row.map Assignment.value⟩ :=
    Statement.ext
      (by simp [Statement.join, Function.comp_def, Assignment.operand, Statement.bound])
      (by simp [Statement.join, List.flatMap_map, Assignment.operand, Statement.bound,
        ← List.map_eq_flatMap])
  rwa [hsum, ← List.map_eq_flatMap] at h

theorem marks_columns : ∀ column ∈ row.map Assignment.column, marks column = 0 :=
  List.forall_mem_map.2 fun a ha => (hrow a ha).column

include hd

theorem woven_columnsAndValues :
    Woven (row.map Assignment.operand)
      ⟨d.columnsAndValues quote (row.map Assignment.column) (row.map fun a => a.term.getD "?"),
        row.map Assignment.value⟩ := by
  have hvalues := woven_row hrow ", " rfl (fun _ => "") fun _ _ => rfl
  have hcolumns := hd.identifiers quote (marks_columns hrow)
  simp only [String.append_empty] at hvalues
  exact (hvalues.prepend (by simp only [marks_append, hcolumns]; rfl)).extend rfl

include htable

theorem woven_plainInsert :
    Woven (row.map Assignment.operand)
      ⟨d.plainInsert quote table (row.map Assignment.column) (row.map fun a => a.term.getD "?"),
        row.map Assignment.value⟩ :=
  (woven_columnsAndValues hd quote hrow).prepend (by simp only [marks_append, htable]; rfl)

include hkey

theorem woven_mergeSource :
    Woven (row.map Assignment.operand)
      ⟨d.mergeSource quote table primaryKey (row.map Assignment.column)
        (row.map fun a => a.term.getD "?"), row.map Assignment.value⟩ := by
  have hkeys := marks_join_map hkey " AND " rfl
    (fun k => "TMP." ++ d.identifier quote k ++ " = SRC." ++ d.identifier quote k)
    fun k hk => by simp only [marks_append, hd.identifier quote hk]; rfl
  have hvalues := woven_row hrow ", " rfl
    (fun a => " " ++ d.identifier quote a.column)
    fun a ha => by simp only [marks_append, hd.identifier quote (hrow a ha).column]; rfl
  have hsource : (List.zip (row.map Assignment.column) (row.map fun a => a.term.getD "?")).map
      (fun p => p.2 ++ " " ++ d.identifier quote p.1) =
      row.map fun a => a.term.getD "?" ++ (" " ++ d.identifier quote a.column) := by
    rw [List.zip_map', List.map_map]
    exact List.map_congr_left fun a _ => String.append_assoc ..
  have htext : d.mergeSource quote table primaryKey (row.map Assignment.column)
        (row.map fun a => a.term.getD "?") =
      "MERGE INTO " ++ table ++ " TMP USING (SELECT " ++
        Text.join ", " (row.map fun a => a.term.getD "?" ++ (" " ++ d.identifier quote a.column)) ++
        (" FROM dual) SRC ON (" ++ Text.join " AND " (primaryKey.map fun k =>
          "TMP." ++ d.identifier quote k ++ " = SRC." ++ d.identifier quote k) ++ ")") := by
    have hassoc : ∀ s t u v : String, s ++ t ++ u ++ v = s ++ (t ++ u ++ v) :=
      fun s t u v => by simp only [String.append_assoc]
    delta mergeSource
    dsimp only
    rw [hsource]
    exact hassoc ..
  rw [htext]
  exact (hvalues.prepend (by simp only [marks_append, htable]; rfl)).extend
    (by simp only [marks_append, hkeys]; rfl)

/-- In every form an insert is woven from the values of its row, in the order of the columns. -/
theorem woven_insertText (onConflict : OnConflict) :
    Woven (row.map Assignment.operand)
      ⟨d.insertText quote table primaryKey (row.map Assignment.column)
        (row.map fun a => a.term.getD "?") onConflict, row.map Assignment.value⟩ := by
  have hplain := woven_plainInsert hd quote htable hrow
  have hmerge := woven_mergeSource hd quote htable hkey hrow
  have hcolumns := marks_columns hrow
  have hwritten : ∀ c ∈ outsideKey primaryKey (row.map Assignment.column), marks c = 0 :=
    fun c hc => hcolumns c (List.mem_filter.1 hc).1
  have hnew := marks_whenNew hd quote hcolumns
  cases onConflict with
  | plain => exact hplain
  | skip =>
    simp only [insertText, skippingInsert]
    cases d.conflictForm with
    | none => exact hplain
    | duplicateKey =>
      refine (woven_columnsAndValues hd quote hrow).prepend ?_
      simp only [marks_append, htable]
      rfl
    | onConflict => exact hplain.extend rfl
    | merge => exact hmerge.extend hnew
  | overwrite =>
    simp only [insertText, overwritingInsert]
    cases d.conflictForm with
    | none => exact hplain
    | duplicateKey => exact hplain.extend (marks_onDuplicateKey hd quote hwritten)
    | onConflict => exact hplain.extend (marks_onConflict hd quote hkey hwritten)
    | merge => exact (hmerge.extend (marks_whenMatched hd quote hwritten)).extend hnew

end Dialect

end DataCommand
