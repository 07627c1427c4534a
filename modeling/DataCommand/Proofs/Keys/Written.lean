import DataCommand.Dialect.Builtin
import DataCommand.Proofs.Criteria
import DataCommand.Proofs.Keys.Objects

/-!
Keys of what is written. Of the documents in a statement, filters and queries name no key twice,
and neither does the row of an insert, since a row takes a column once. Assignments, sort keys and
projected fields are written as they came, and what repeats there is written repeatedly.
-/

namespace DataCommand

/-! ### Rows -/

/-- A row with one more column has it once. -/
theorem Assignment.nodup_pushNew {column : String} {value : Value} {term : Option String}
    {row extended : List Assignment} (hrow : (row.map Assignment.column).Nodup)
    (h : pushNew column value term row = .ok extended) :
    (extended.map Assignment.column).Nodup := by
  unfold pushNew at h
  split at h
  · cases h
  · rename_i hnew
    obtain rfl := Except.ok.inj h
    have hcolumn : ∀ a ∈ row, a.column ≠ column := by simpa using hnew
    simpa [push, List.nodup_append] using ⟨hrow, hcolumn⟩

namespace DocumentCommand

/-- No column is supplied twice. -/
def RowDistinct (b : DocumentCommand) : Prop := (b.row.map Assignment.column).Nodup

theorem rowDistinct_call (label : String) (c : Call) (b : DocumentCommand) (hb : b.RowDistinct) :
    (call label c b).2.RowDistinct := by
  cases c with
  | supply column value term =>
    simp only [call]
    split
    · exact hb
    · rename_i row hpush
      exact Assignment.nodup_pushNew hb hpush
  | condition connective c =>
    simp only [call, restrict]
    repeat' split
    all_goals exact hb
  | clear => simp [call, RowDistinct]
  | _ => exact hb

theorem rowDistinct_of_reachable {b : DocumentCommand} (h : Reachable ({} : DocumentCommand) b) :
    b.RowDistinct :=
  of_reachable (P := RowDistinct) (by simp [RowDistinct]) rowDistinct_call (fun _ _ hb => hb) h

end DocumentCommand

theorem SearchCommand.rowDistinct_of_reachable {layout : PathLayout} {b : SearchCommand}
    (h : Reachable ({ layout } : SearchCommand) b) : b.content.RowDistinct :=
  of_reachable (P := DocumentCommand.RowDistinct) (by simp [DocumentCommand.RowDistinct])
    DocumentCommand.rowDistinct_call (fun _ _ hb => hb) h

/-! ### Documents in statements -/

/-- A method of a collection with the documents it is called with, and the sort keys behind it. -/
structure ShellCall where
  method : String
  arguments : List (Document Value)
  sorting : Option (Document Value) := none

namespace ShellCall

/-- The call as it is written behind the name of a collection. -/
def text (collection : String) (c : ShellCall) : String :=
  collection ++ "." ++ c.method ++ "(" ++ Text.join ", " (c.arguments.map Document.shell) ++ ")" ++
    c.sorting.elim "" fun keys => ".sort(" ++ keys.shell ++ ")"

def documents (c : ShellCall) : List (Document Value) := c.arguments ++ c.sorting.toList

end ShellCall

namespace DocumentCommand

/-- The call that a request is written as. -/
def shellCall (request : Request) (d : Dialect) (b : DocumentCommand) : ShellCall :=
  match request with
  | .select =>
    { method := "find"
      arguments := filterOf d b.criteria :: if b.selectsAll then [] else [b.projection]
      sorting := if b.sorts.isEmpty then none else some b.sorting }
  | .update _ =>
    { method := "updateMany"
      arguments := [filterOf d b.criteria, .entry "$set" (Assignment.object b.assignments)] }
  | .delete _ => { method := "deleteMany", arguments := [filterOf d b.criteria] }
  | .insert _ _ => { method := "insertMany", arguments := [.array [Assignment.object b.row]] }

theorem text_part (request : Request) (d : Dialect) (quote : Bool) (b : DocumentCommand) :
    (b.part request d quote).text = (b.shellCall request d).text (d.targetText quote b.target) := by
  cases request with
  | select =>
    cases hall : b.selectsAll <;> cases hsorts : b.sorts.isEmpty <;>
      simp [part, shellCall, ShellCall.text, selectText, methodCall, filter,
        Document.shellStatement, hall, hsorts, Text.join, String.append_assoc]
  | _ =>
    simp [part, shellCall, ShellCall.text, updateText, deleteText, insertText, methodCall, filter,
      Document.shellStatement, Text.join, String.append_assoc]

/-- What is written as it came repeats nothing: the fields and the sort keys of a query, and what an
update assigns. -/
def RepeatsNoKey (b : DocumentCommand) : Request → Prop
  | .select =>
    (b.selectsAll = true ∨ (b.projections.map ProjectedField.field).Nodup) ∧
      (b.sorts.map SortKey.field).Nodup
  | .update _ => (b.assignments.map Assignment.column).Nodup
  | .delete _ | .insert _ _ => True

end DocumentCommand

/-- Assignments are written as an object that names their columns. -/
@[simp]
theorem namesOnce_assignments (assignments : List Assignment) :
    (Assignment.object assignments).NamesOnce ↔ (assignments.map Assignment.column).Nodup := by
  have hvalue : ∀ a : Assignment, a.document.NamesOnce := by
    intro a
    unfold Assignment.document
    split <;> simp
  simp [Assignment.object, hvalue, Function.comp_def]

section Request
variable {b : DocumentCommand} (hrow : (b.row.map Assignment.column).Nodup) (request : Request)
  (d : Dialect)
include hrow

/-- The documents of a call name every key once, unless something is repeated in what is written as
it came. -/
theorem DocumentCommand.namesOnce_shellCall :
    (∀ doc ∈ (b.shellCall request d).documents, doc.NamesOnce) ↔ b.RepeatsNoKey request := by
  have hfilter := namesOnce_filterOf d b.criteria
  have hprojection : b.projection.NamesOnce ↔ (b.projections.map ProjectedField.field).Nodup := by
    simp [projection, Function.comp_def]
  have hsorting : b.sorting.NamesOnce ↔ (b.sorts.map SortKey.field).Nodup := by
    simp [sorting, Function.comp_def]
  cases request with
  | select =>
    -- where no sort keys are written, there are none to repeat
    have hsorts : (¬b.sorts = [] → b.sorting.NamesOnce) ↔ (b.sorts.map SortKey.field).Nodup := by
      rw [hsorting]
      cases b.sorts <;> simp
    cases hall : b.selectsAll <;>
      simp [shellCall, ShellCall.documents, RepeatsNoKey, hfilter, hall, hprojection, hsorts,
        or_imp, forall_and]
  | update allow => simp [shellCall, ShellCall.documents, RepeatsNoKey, hfilter]
  | delete allow => simp [shellCall, ShellCall.documents, RepeatsNoKey, hfilter]
  | insert primaryKey asked => simpa [shellCall, ShellCall.documents, RepeatsNoKey] using hrow

/-- The body of a request names every key once, unless an update assigns a column twice. -/
theorem SearchCommand.namesOnce_body :
    (body d b request).NamesOnce ↔
      ∀ allow, request = .update allow → (b.assignments.map Assignment.column).Nodup := by
  have hquery := namesOnce_queryOf d b.criteria
  cases request with
  | select =>
    have hsort : ∀ k : SortKey, k.document.NamesOnce := by
      rintro ⟨field, order, nulls⟩
      cases order <;> cases nulls <;> simp [SortKey.document]
    cases hall : b.selectsAll <;> cases hempty : b.sorts.isEmpty <;>
      simp [body, selectBody, hall, hempty, hquery, hsort]
  | update allow => simp [body, updateBody, hquery]
  | delete allow => simp [body, deleteBody, hquery]
  | insert primaryKey asked => simpa [body] using hrow

end Request

/-- Of the documents in a statement, those that are written as they came name a key twice if
something repeats in them: the fields and the sort keys of a document query, and what an update
assigns. All others name every key once. So that is also when a reader that keeps one entry of each
key finds everything that was written. -/
theorem keys_named_once_iff (request : Request) (d : Dialect) (quote : Bool) (s : Statement) :
    (∀ b : DocumentCommand, Reachable ({} : DocumentCommand) b →
      (b.render request d quote).result = .ok s →
        s.text = (b.shellCall request d).text (d.targetText quote b.target) ∧
          ((∀ doc ∈ (b.shellCall request d).documents, doc.NamesOnce) ↔
            b.RepeatsNoKey request) ∧
          ((∀ doc ∈ (b.shellCall request d).documents, doc.read = doc) ↔
            b.RepeatsNoKey request)) ∧
    ∀ layout, ∀ b : SearchCommand, Reachable ({ layout } : SearchCommand) b →
      (b.render request d quote).result = .ok s →
        ∃ e, b.endpoint request.operation = .ok e ∧
          s.text = e.text ++ " " ++ (SearchCommand.body d b.content request).json ∧
          ((SearchCommand.body d b.content request).NamesOnce ↔ ∀ allow, request = .update allow →
            (b.content.assignments.map Assignment.column).Nodup) ∧
          ((SearchCommand.body d b.content request).read = SearchCommand.body d b.content request ↔
            ∀ allow, request = .update allow →
              (b.content.assignments.map Assignment.column).Nodup) := by
  refine ⟨fun b hreach h => ?_, fun layout b hreach h => ?_⟩
  · rw [DocumentCommand.render_result] at h
    obtain ⟨-, -, rfl⟩ := Except.eq_of_map_eq_ok h
    have hnames := DocumentCommand.namesOnce_shellCall
      (DocumentCommand.rowDistinct_of_reachable hreach) request d
    refine ⟨b.text_part request d quote, hnames, ?_⟩
    simpa only [Document.read_eq_self_iff] using hnames
  · obtain ⟨-, e, he, rfl⟩ := SearchCommand.render_eq_ok_iff.1 h
    have hnames := SearchCommand.namesOnce_body
      (SearchCommand.rowDistinct_of_reachable hreach) request d
    refine ⟨e, he, ?_, hnames, ?_⟩
    · rw [Statement.text_after, SearchCommand.text_part]
    · rw [Document.read_eq_self_iff]
      exact hnames

/-- A command with a column that is assigned twice. -/
def assignedTwice : DocumentCommand :=
  { target := { table := "t" }, assignments := [⟨"a", .int 1, none⟩, ⟨"a", .int 2, none⟩] }

/-- A key that is named twice. A reader finds one of the two values. -/
theorem keys_named_once_iff_assignedTwice :
    let call := assignedTwice.shellCall (.update true) .mongo
    call.text "db.t" = "db.t.updateMany(\x7b\x7d, \x7b$set: \x7ba: ?, a: ?\x7d\x7d)" ∧
      ¬(∀ doc ∈ call.documents, doc.NamesOnce) ∧
      call.documents.map Document.read =
        [.object [], .entry "$set" (.entry "a" (.hole (.int 2)))] := by
  intro call
  have hreach : Reachable ({} : DocumentCommand) assignedTwice :=
    ⟨[.call (.setTarget { table := "t" }), .call (.assign "a" (.int 1) none),
      .call (.assign "a" (.int 2) none)], rfl⟩
  have hrender : (assignedTwice.render (.update true) .mongo false).result = .ok _ := rfl
  have h := (keys_named_once_iff (.update true) .mongo false _).1 assignedTwice hreach hrender
  refine ⟨by decide, fun hnames => ?_, rfl⟩
  have hnodup : ["a", "a"].Nodup := h.2.1.1 hnames
  simp at hnodup

end DataCommand
