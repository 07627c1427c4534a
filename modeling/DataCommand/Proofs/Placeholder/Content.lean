import DataCommand.Proofs.Placeholder.Criterion
import DataCommand.Proofs.Placeholder.Insert
import DataCommand.Proofs.Rendering

/-!
Document and search commands and their operands. Both are written as documents, whose holes are the
operands of the criteria and of the assignments, the criteria first.
-/

namespace DataCommand

open Text

namespace Assignment

theorem operands_document (a : Assignment) : a.document.operands = a.bindings := by
  unfold document bindings
  split <;> simp [operand]

theorem Templated.document {a : Assignment} (ha : a.Templated) : a.document.Templated := by
  unfold Assignment.document
  split
  · simp
  · exact Document.templated_bind _ ha.term

theorem operands_object (assignments : List Assignment) :
    (object assignments).operands = assignments.flatMap bindings := by
  simp [object, List.flatMap_map, operands_document]

theorem templated_object {assignments : List Assignment} (h : ∀ a ∈ assignments, a.Templated) :
    (object assignments).Templated := by
  rw [object, Document.templated_object, List.forall_mem_map]
  exact fun a ha => ⟨(h a ha).column, (h a ha).document⟩

end Assignment

namespace DocumentCommand

/-- The caller's texts in a command have the marks that they should have. -/
structure Templated (b : DocumentCommand) : Prop where
  target : b.target.Unmarked
  criteria : ∀ c ∈ b.criteria, c.condition.Templated
  projections : ∀ p ∈ b.projections, marks p.field = 0
  sorts : ∀ k ∈ b.sorts, marks k.field = 0
  assignments : ∀ a ∈ b.assignments, a.Templated
  row : ∀ a ∈ b.row, a.Templated

/-- What a rendered command binds: the criteria, and then the assignments; or a row. -/
def operands (d : Dialect) (b : DocumentCommand) : Request → List Statement
  | .select | .delete _ => b.criteria.flatMap (Criterion.bindings d)
  | .update _ =>
    b.criteria.flatMap (Criterion.bindings d) ++ b.assignments.flatMap Assignment.bindings
  | .insert _ _ => b.row.flatMap Assignment.bindings

theorem shellStatement_eq (d : Document Value) :
    d.shellStatement = d.inSpelling Document.inShell :=
  Statement.ext (Document.shell_eq_spelled d) rfl

theorem woven_shellStatement {d : Document Value} (h : d.Templated) :
    Woven d.operands d.shellStatement := by
  rw [shellStatement_eq]
  exact Document.woven Document.unmarked_inShell d h

section Woven
variable {b : DocumentCommand} (haccepted : b.Accepted) (hb : b.Templated) {d : Dialect}
include haccepted hb

theorem woven_filter : Woven (b.criteria.flatMap (Criterion.bindings d)) (b.filter d) := by
  have h := woven_shellStatement (templated_filterOf d hb.criteria)
  rwa [operands_filterOf d haccepted] at h

variable (hd : d.Unmarked)
include hd

omit haccepted in
/-- A method call is woven from its arguments. -/
theorem woven_methodCall (quote : Bool) {method : String} (hmethod : marks method = 0)
    {xs : List Statement} {arguments : Statement} (h : Woven xs arguments) :
    Woven xs (b.methodCall d quote method arguments) := by
  have htarget := hd.targetText quote hb.target
  exact (h.plain_append (by simp only [marks_append, htarget, hmethod]; rfl)).append_plain rfl

theorem woven_part (quote : Bool) (request : Request) :
    Woven (b.operands d request) (b.part request d quote) := by
  have hfilter := woven_filter (d := d) haccepted hb
  cases request with
  | select =>
    have hfields : Woven [] (if b.selectsAll then .plain ""
        else .plain ", " ++ b.projection.shellStatement) := by
      split
      · exact .plain rfl
      · have h := woven_shellStatement (d := b.projection) (by
          simpa [projection] using fun p hp => hb.projections p hp)
        have hnone : b.projection.operands = [] := by simp [projection, List.flatMap_map]
        rw [hnone] at h
        exact h.plain_append rfl
    have hsort : Woven [] (if b.sorts.isEmpty then .plain ""
        else .plain ".sort(" ++ b.sorting.shellStatement ++ .plain ")") := by
      split
      · exact .plain rfl
      · have h := woven_shellStatement (d := b.sorting) (by
          simpa [sorting] using fun k hk => hb.sorts k hk)
        have hnone : b.sorting.operands = [] := by simp [sorting, List.flatMap_map]
        rw [hnone] at h
        exact (h.plain_append rfl).append_plain rfl
    have hcall :=
      woven_methodCall hb hd quote (show marks "find" = 0 from rfl) (hfilter.append hfields)
    have h := hcall.append hsort
    rw [List.append_nil, List.append_nil] at h
    exact h
  | update allow =>
    have hset := woven_shellStatement (d := .entry "$set" (Assignment.object b.assignments))
      ((Document.templated_entry _ _).2 ⟨rfl, Assignment.templated_object hb.assignments⟩)
    rw [Document.operands_entry, Assignment.operands_object] at hset
    exact woven_methodCall hb hd quote rfl ((hfilter.append_plain rfl).append hset)
  | delete allow => exact woven_methodCall hb hd quote rfl hfilter
  | insert primaryKey asked =>
    have hrow := woven_shellStatement (d := .array [Assignment.object b.row])
      (by simpa using Assignment.templated_object hb.row)
    rw [Document.operands_array, List.flatMap_singleton, Assignment.operands_object] at hrow
    exact woven_methodCall hb hd quote rfl hrow

end Woven

end DocumentCommand

theorem SortKey.operands_document (k : SortKey) : k.document.operands = [] := by
  obtain ⟨field, order, nulls⟩ := k
  cases order <;> cases nulls <;> simp [SortKey.document]

/-- A sort key has no marks but those of its field. -/
theorem SortKey.templated_document {k : SortKey} (h : marks k.field = 0) :
    k.document.Templated := by
  obtain ⟨field, order, nulls⟩ := k
  cases order <;> cases nulls <;> simp_all [SortKey.document, marks]

namespace SearchCommand

section Body
variable {b : DocumentCommand} (d : Dialect)

/-- The holes of a body are the operands of the command. -/
theorem operands_body (haccepted : b.Accepted) (request : Request) :
    (body d b request).operands = b.operands d request := by
  have hquery := operands_queryOf d haccepted
  cases request with
  | select =>
    have hfields : (if b.selectsAll then []
        else [("_source", Document.array (b.projections.map fun p => .str p.field))]).flatMap
          (fun e => e.2.operands) = [] := by
      split <;> simp [List.flatMap_map]
    have hsort : (if b.sorts.isEmpty then []
        else [("sort", Document.array (b.sorts.map SortKey.document))]).flatMap
          (fun e => e.2.operands) = [] := by
      split <;> simp [List.flatMap_map, SortKey.operands_document]
    simp only [body, selectBody, Document.operands_object, List.flatMap_append, hfields, hsort]
    simp [hquery, DocumentCommand.operands]
  | update allow =>
    simp [body, updateBody, hquery, Assignment.operands_object, DocumentCommand.operands]
  | delete allow => simp [body, deleteBody, hquery, DocumentCommand.operands]
  | insert primaryKey asked => exact Assignment.operands_object b.row

theorem templated_body (hb : b.Templated) (request : Request) :
    (body d b request).Templated := by
  have hquery := templated_queryOf d hb.criteria
  cases request with
  | select =>
    have hfields : ∀ e ∈ (if b.selectsAll then []
        else [("_source", Document.array (b.projections.map fun p => .str p.field))]),
          marks e.1 = 0 ∧ e.2.Templated := by
      split
      · simp
      · simpa [show marks "_source" = 0 from rfl] using fun p hp => hb.projections p hp
    have hsort : ∀ e ∈ (if b.sorts.isEmpty then []
        else [("sort", Document.array (b.sorts.map SortKey.document))]),
          marks e.1 = 0 ∧ e.2.Templated := by
      split
      · simp
      · simpa [show marks "sort" = 0 from rfl] using
          fun k hk => SortKey.templated_document (hb.sorts k hk)
    simp only [body, selectBody, Document.templated_object, List.forall_mem_append,
      List.forall_mem_singleton]
    exact ⟨⟨⟨rfl, hquery⟩, hfields⟩, hsort⟩
  | update allow =>
    have hset := Assignment.templated_object hb.assignments
    simp [body, updateBody, hquery, hset, marks]
  | delete allow => exact (Document.templated_entry _ _).2 ⟨rfl, hquery⟩
  | insert primaryKey asked => exact Assignment.templated_object hb.row

end Body

end SearchCommand

end DataCommand
