import DataCommand.Proofs.Criteria
import DataCommand.Proofs.Placeholder.Document
import DataCommand.SqlCommand.Basic
import Mathlib.Data.List.Basic

/-!
Conditions and their operands. A condition binds the same operands in every family of commands, and
the filter and the query that some criteria become have the operands of these criteria as their
holes, one after the other, however deep a condition lies in the tree.
-/

namespace DataCommand

open Text

/-- One value of a condition, behind an expression that may be blank. -/
def Test.boundOver (v : Value) (term : Option String) : Statement :=
  .bound ((Text.unlessBlank term).getD "?") v

/-- What a test binds. -/
def Test.bindings (d : Dialect) : Test → List Statement
  | .compare comparison operand term wildcards =>
    let v := operand.getD .null
    if comparison.testsNull then []
    else [boundOver (if comparison.takesPattern then d.patternValue wildcards v else v) term]
  | .within _ low high lowTerm highTerm => [boundOver low lowTerm, boundOver high highTerm]
  | .oneOf _ values term => values.map fun v => boundOver v term

/-- An expression around a value, if it is not blank, has one mark. -/
def Test.Templated : Test → Prop
  | .compare _ _ term _ => IsTemplate (Text.unlessBlank term)
  | .within _ _ _ lowTerm highTerm =>
    IsTemplate (Text.unlessBlank lowTerm) ∧ IsTemplate (Text.unlessBlank highTerm)
  | .oneOf _ _ term => IsTemplate (Text.unlessBlank term)

/-- The column and the expression in its place have no marks, and the test has those that it should
have. -/
structure Condition.Templated (c : Condition) : Prop where
  column : marks c.column = 0
  term : Text.Unmarked (Text.unlessBlank c.term)
  test : c.test.Templated

namespace Document
variable {β : Type}

@[simp]
theorem operands_bindOver (v : Value) (term : Option String) :
    (bindOver v term).operands = [Test.boundOver v term] := by simp [bindOver, Test.boundOver]

theorem templated_bindOver (v : Value) {term : Option String}
    (h : IsTemplate (Text.unlessBlank term)) : (bindOver v term).Templated := templated_bind v h

@[simp]
theorem operands_together (entries : List (String × Document Value)) :
    (together entries).operands = entries.flatMap fun e => e.2.operands := by
  unfold together
  split <;> simp [List.flatMap_map]

theorem templated_together {entries : List (String × Document Value)}
    (h : ∀ e ∈ entries, marks e.1 = 0 ∧ e.2.Templated) : (together entries).Templated := by
  unfold together
  split
  · simpa using h
  · rw [templated_entry, templated_array, List.forall_mem_map]
    exact ⟨rfl, fun e he => (templated_entry e.1 e.2).2 (h e he)⟩

@[simp]
theorem operands_mustNot (query : Document Value) : (mustNot query).operands = query.operands := by
  simp [mustNot]

@[simp]
theorem operands_mustNotIf (negated : Bool) (query : Document Value) :
    (mustNotIf negated query).operands = query.operands := by
  unfold mustNotIf
  split <;> simp

theorem templated_mustNot {query : Document Value} (h : query.Templated) :
    (mustNot query).Templated := by
  simp [mustNot, h, show marks "bool" = 0 from rfl, show marks "must_not" = 0 from rfl]

theorem templated_mustNotIf (negated : Bool) {query : Document Value} (h : query.Templated) :
    (mustNotIf negated query).Templated := by
  unfold mustNotIf
  split
  · exact templated_mustNot h
  · exact h

end Document

namespace Condition
variable {c : Condition} (d : Dialect)

theorem marks_field (ht : c.Templated) : marks c.field = 0 := ht.term.getD ht.column

/-- The fragments of a test bind what the test binds. -/
theorem operands_fragment (d : Dialect) (c : Condition) :
    c.fragment.operands d = c.test.bindings d := by
  obtain ⟨column, columnTerm, test⟩ := c
  cases test with
  | compare comparison operand term wildcards =>
    by_cases hnull : comparison.testsNull = true
    · simp [fragment, Fragment.blankSeparated, Fragment.operands, Fragment.operandsOfAll,
        Test.operands, Test.bindings, hnull]
    · by_cases hpattern : comparison.takesPattern = true <;>
        simp [fragment, Fragment.blankSeparated, Fragment.operands, Fragment.operandsOfAll,
          Test.operands, Test.bindings, Test.boundOver, hnull, hpattern]
  | within => rfl
  | oneOf negated values term =>
    simp [fragment, Fragment.blankSeparated, Fragment.operands, Fragment.operandsOfAll_eq_flatMap,
      Test.operands, Test.bindings, Test.boundOver, List.flatMap_map, ← List.map_eq_flatMap]

/-- A comparison that a command takes has one operand or none. -/
theorem single_of_fault {column : String} {columnTerm : Option String} {comparison : Comparison}
    {operand : Option Value} {term : Option String} {wildcards : Wildcards}
    (hc : fault? ⟨column, columnTerm, .compare comparison operand term wildcards⟩ = none) :
    comparison.takesList = false ∧ comparison.takesRange = false := by
  by_cases h : (comparison.takesList || comparison.takesRange) = true
  · simp [fault?, h] at hc
  · simpa using h

/-- A condition as an entry of a filter has its operands as holes. -/
theorem operands_entry (hc : c.fault? = none) : (c.entry d).2.operands = c.test.bindings d := by
  obtain ⟨column, columnTerm, test⟩ := c
  cases test with
  | compare comparison operand term wildcards =>
    obtain ⟨hlist, hrange⟩ := single_of_fault hc
    cases comparison with
    | inList | notInList => simp [Comparison.takesList] at hlist
    | between | notBetween => simp [Comparison.takesRange] at hrange
    | _ => simp [entry, comparisonEntry, Test.bindings, Comparison.testsNull,
        Comparison.takesPattern]
  | within negated low high lowTerm highTerm => cases negated <;> simp [entry, Test.bindings]
  | oneOf negated values term =>
    simp [entry, Test.bindings, List.flatMap_map, ← List.map_eq_flatMap]

/-- A condition as a query has its operands as holes. -/
theorem operands_query (hc : c.fault? = none) : (c.query d).operands = c.test.bindings d := by
  obtain ⟨column, columnTerm, test⟩ := c
  cases test with
  | compare comparison operand term wildcards =>
    obtain ⟨hlist, hrange⟩ := single_of_fault hc
    cases comparison with
    | inList | notInList => simp [Comparison.takesList] at hlist
    | between | notBetween => simp [Comparison.takesRange] at hrange
    | _ => simp [query, comparisonQuery, Document.onField, Document.range, Document.fieldExists,
        Test.bindings, Comparison.testsNull, Comparison.takesPattern]
  | within negated low high lowTerm highTerm =>
    simp [query, Test.bindings, Document.range, Document.onField]
  | oneOf negated values term =>
    simp [query, Test.bindings, Document.onField, List.flatMap_map, ← List.map_eq_flatMap]

/-- An entry brings no marks but those of its holes. -/
theorem templated_entry (ht : c.Templated) :
    marks (c.entry d).1 = 0 ∧ (c.entry d).2.Templated := by
  have hfield := c.marks_field ht
  obtain ⟨column, columnTerm, test⟩ := c
  have htest := ht.test
  cases test with
  | compare comparison operand term wildcards =>
    have hbind := fun v => Document.templated_bindOver v htest
    cases comparison <;> exact ⟨hfield, by simp [entry, comparisonEntry, hbind, marks]⟩
  | within negated low high lowTerm highTerm =>
    have hlow := Document.templated_bindOver low htest.1
    have hhigh := Document.templated_bindOver high htest.2
    cases negated
    · exact ⟨hfield, by simp [entry, hlow, hhigh, marks]⟩
    · exact ⟨show marks "$or" = 0 from rfl, by simp_all [entry, marks]⟩
  | oneOf negated values term =>
    have hbind := fun v => Document.templated_bindOver v htest
    cases negated <;> exact ⟨hfield, by simp [entry, hbind, marks]⟩

/-- A query brings no marks but those of its holes. -/
theorem templated_query (ht : c.Templated) : (c.query d).Templated := by
  have hfield := c.marks_field ht
  obtain ⟨column, columnTerm, test⟩ := c
  have htest := ht.test
  cases test with
  | compare comparison operand term wildcards =>
    have hbind := fun v => Document.templated_bindOver v htest
    cases comparison <;>
      simp_all [query, comparisonQuery, Document.mustNot, Document.onField, Document.range,
        Document.fieldExists, marks]
  | within negated low high lowTerm highTerm =>
    have hlow := Document.templated_bindOver low htest.1
    have hhigh := Document.templated_bindOver high htest.2
    refine Document.templated_mustNotIf negated ?_
    simp_all [Document.onField, Document.range, marks]
  | oneOf negated values term =>
    have hbind := fun v => Document.templated_bindOver v htest
    refine Document.templated_mustNotIf negated ?_
    simp_all [Document.onField, marks]

end Condition

namespace Criterion
variable {c : Criterion} (d : Dialect)

/-- What a criterion binds: what its condition binds in a relational command. -/
def bindings (c : Criterion) : List Statement := c.condition.fragment.operands d

theorem operands_entry (hc : c.condition.fault? = none) :
    (c.entry d).2.operands = c.bindings d := by
  unfold entry
  split <;> simp [bindings, Condition.operands_fragment, Condition.operands_entry d hc]

theorem templated_entry (ht : c.condition.Templated) :
    marks (c.entry d).1 = 0 ∧ (c.entry d).2.Templated := by
  have h := Condition.templated_entry d ht
  unfold entry
  split
  · exact ⟨show marks "$nor" = 0 from rfl, by simpa using h⟩
  · exact h

theorem operands_query (hc : c.condition.fault? = none) :
    (c.query d).operands = c.bindings d := by
  simp [query, bindings, Condition.operands_fragment, Condition.operands_query d hc]

theorem templated_query (ht : c.condition.Templated) : (c.query d).Templated :=
  Document.templated_mustNotIf _ (Condition.templated_query d ht)

end Criterion

section Criteria
variable {criteria : List Criterion} (d : Dialect)

/-- What criteria bind is what their alternatives bind, one after the other. -/
theorem flatMap_alternatives {part : List Criterion → Document Value}
    (h : ∀ run ∈ alternatives criteria, (part run).operands = run.flatMap (Criterion.bindings d)) :
    ((alternatives criteria).map part).flatMap Document.operands =
      criteria.flatMap (Criterion.bindings d) :=
  calc ((alternatives criteria).map part).flatMap Document.operands
      = (alternatives criteria).flatMap fun run => run.flatMap (Criterion.bindings d) := by
        rw [List.flatMap_map]
        exact List.flatMap_congr h
    _ = (alternatives criteria).flatten.flatMap (Criterion.bindings d) := by
        rw [List.flatten_eq_flatMap, List.flatMap_assoc]
        rfl
    _ = criteria.flatMap (Criterion.bindings d) := by rw [flatten_alternatives]

/-- The filter of some criteria has their operands as holes. -/
theorem operands_filterOf (h : ∀ c ∈ criteria, c.condition.fault? = none) :
    (filterOf d criteria).operands = criteria.flatMap (Criterion.bindings d) := by
  have hrun : ∀ run ∈ alternatives criteria,
      (Document.together (run.map (Criterion.entry d))).operands =
        run.flatMap (Criterion.bindings d) := by
    intro run hrun
    rw [Document.operands_together, List.flatMap_map]
    exact List.flatMap_congr fun c hc => c.operands_entry d (h c (mem_of_mem_alternatives hrun hc))
  rw [← flatMap_alternatives d hrun]
  unfold filterOf
  split <;> rename_i hruns <;> simp [hruns]

theorem templated_filterOf (h : ∀ c ∈ criteria, c.condition.Templated) :
    (filterOf d criteria).Templated := by
  have hrun : ∀ part ∈ (alternatives criteria).map fun run =>
      Document.together (run.map (Criterion.entry d)), part.Templated := by
    refine List.forall_mem_map.2 fun run hrun => Document.templated_together ?_
    exact List.forall_mem_map.2 fun c hc =>
      c.templated_entry d (h c (mem_of_mem_alternatives hrun hc))
  unfold filterOf
  split
  · simp
  · rename_i hruns
    exact hrun _ (by simp [hruns])
  · rw [Document.templated_entry, Document.templated_array]
    exact ⟨rfl, hrun⟩

/-- The query of some criteria has their operands as holes. -/
theorem operands_queryOf (h : ∀ c ∈ criteria, c.condition.fault? = none) :
    (queryOf d criteria).operands = criteria.flatMap (Criterion.bindings d) := by
  have hrun : ∀ run ∈ alternatives criteria,
      (queryOfAll d run).operands = run.flatMap (Criterion.bindings d) := by
    intro run hrun
    simp only [queryOfAll, Document.operands_entry, Document.operands_array, List.flatMap_map]
    exact List.flatMap_congr fun c hc => c.operands_query d (h c (mem_of_mem_alternatives hrun hc))
  rw [← flatMap_alternatives d hrun]
  unfold queryOf
  split <;> rename_i hruns <;> simp [hruns]

theorem templated_queryOf (h : ∀ c ∈ criteria, c.condition.Templated) :
    (queryOf d criteria).Templated := by
  have hrun : ∀ part ∈ (alternatives criteria).map (queryOfAll d), part.Templated := by
    refine List.forall_mem_map.2 fun run hrun => ?_
    simp only [queryOfAll, Document.templated_entry, Document.templated_array, List.forall_mem_map]
    exact ⟨rfl, rfl, fun c hc => c.templated_query d (h c (mem_of_mem_alternatives hrun hc))⟩
  unfold queryOf
  split
  · simp [marks]
  · rename_i hruns
    exact hrun _ (by simp [hruns])
  · simp only [Document.templated_entry, Document.templated_object, List.forall_mem_cons,
      Document.templated_array]
    exact ⟨rfl, ⟨rfl, hrun⟩, ⟨rfl, trivial⟩, by simp⟩

end Criteria

end DataCommand
