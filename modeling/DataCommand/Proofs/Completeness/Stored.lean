import DataCommand.Proofs.Completeness.Document
import DataCommand.Proofs.Filter.Content
import DataCommand.Proofs.Guard.Filter

/-!
Conditions that commands keep are complete. The operator of a condition comes with whatever the
caller has filled in, and the forms that a condition is written in take anything: a list or a range
in the place of one operand would be written as a test for any value, and a missing operand as null.
Commands refuse such conditions, so that neither can happen.
-/

namespace DataCommand

namespace Test

/-- The test has what its operator asks for. The operator of a comparison is not one for lists or
ranges, and only a test for null has no operand. A list has values. -/
def Complete : Test → Prop
  | .compare comparison operand _ _ =>
    comparison ∉ [.inList, .notInList, .between, .notBetween] ∧
      (operand.isSome = true ∨ comparison = .isNull ∨ comparison = .isNotNull)
  | .within _ _ _ _ _ => True
  | .oneOf _ values _ => values ≠ []

/-- The values that a test has been given, but for the one that a test for null makes no use of. -/
def values : Test → List Value
  | .compare comparison operand _ _ => if comparison.testsNull then [] else operand.toList
  | .within _ low high _ _ => [low, high]
  | .oneOf _ values _ => values

/-- The values that a test looks for: those given, or the pattern made of the one given. -/
def sought (d : Dialect) : Test → List Value
  | .compare comparison operand term wildcards =>
    (Test.compare comparison operand term wildcards).values.map
      (if comparison.takesPattern then d.patternValue wildcards else id)
  | test => test.values

/-- A complete comparison has an operand, unless it tests for null. -/
theorem Complete.exists_operand {comparison : Comparison} {operand : Option Value}
    {term : Option String} {wildcards : Wildcards}
    (h : (compare comparison operand term wildcards).Complete)
    (hnull : ¬comparison.testsNull = true) : ∃ v, operand = some v := by
  obtain hsome | rfl | rfl := h.2
  · exact Option.isSome_iff_exists.1 hsome
  · exact absurd rfl hnull
  · exact absurd rfl hnull

/-- What a complete test binds are the values it looks for, and no null in their place. -/
theorem args_bindings (d : Dialect) {test : Test} (h : test.Complete) :
    (test.bindings d).flatMap Statement.args = test.sought d := by
  cases test with
  | compare comparison operand term wildcards =>
    by_cases hnull : comparison.testsNull = true
    · simp [bindings, sought, values, hnull]
    · obtain ⟨v, rfl⟩ := h.exists_operand hnull
      by_cases hpattern : comparison.takesPattern = true <;>
        simp [bindings, sought, values, boundOver, Statement.bound, hnull, hpattern]
  | within => rfl
  | oneOf negated values term =>
    simp [bindings, sought, Test.values, boundOver, Statement.bound, List.flatMap_map]

end Test

namespace Condition
variable {c : Condition} (d : Dialect)

/-- A condition is taken exactly if its test is complete. -/
theorem fault?_eq_none_iff : c.fault? = none ↔ c.test.Complete := by
  obtain ⟨column, term, test⟩ := c
  cases test with
  | compare comparison operand =>
    cases comparison <;> cases operand <;>
      simp [fault?, Test.Complete, Comparison.takesList, Comparison.takesRange,
        Comparison.testsNull]
  | within => simp [fault?, Test.Complete]
  | oneOf negated values => cases values <;> simp [fault?, Test.Complete]

/-- A complete condition is written as an entry for any value exactly if it asks for any value. -/
theorem entry_eq_ne_null_iff (h : c.test.Complete) :
    (c.entry d).2 = .entry "$ne" .null ↔ c.test.comparison = .isNotNull := by
  obtain ⟨column, columnTerm, test⟩ := c
  have hbind : ∀ (v : Value) (term : Option String), Document.bindOver v term ≠ .null ∧
      ∀ key value, Document.bindOver v term ≠ .entry key value := by
    intro v term
    unfold Document.bindOver
    cases Text.unlessBlank term <;> simp [Document.bind, Document.entry]
  cases test with
  | compare comparison operand term wildcards =>
    cases comparison <;>
      simp_all [Test.Complete, Test.comparison, entry, comparisonEntry, Document.entry]
  | within negated => cases negated <;> simp [Test.comparison, entry, Document.entry]
  | oneOf negated => cases negated <;> simp [Test.comparison, entry, Document.entry]

/-- A complete condition is written as a query for any value exactly if it asks for any value. -/
theorem query_eq_fieldExists_iff (h : c.test.Complete) :
    c.query d = .fieldExists c.field ↔ c.test.comparison = .isNotNull := by
  obtain ⟨column, columnTerm, test⟩ := c
  cases test with
  | compare comparison operand term wildcards =>
    cases comparison <;>
      simp_all [Test.Complete, Test.comparison, query, comparisonQuery, Document.entry,
        Document.fieldExists, Document.mustNot, Document.range, Document.onField, field]
  | within negated =>
    cases negated <;>
      simp [Test.comparison, query, Document.entry, Document.fieldExists, Document.mustNotIf,
        Document.mustNot, Document.range, Document.onField]
  | oneOf negated =>
    cases negated <;>
      simp [Test.comparison, query, Document.entry, Document.fieldExists, Document.mustNotIf,
        Document.mustNot, Document.onField]

theorem filled_entry (h : c.test.Complete) : (c.entry d).2.Filled := by
  obtain ⟨column, columnTerm, test⟩ := c
  cases test with
  | compare comparison => cases comparison <;> simp [entry, comparisonEntry]
  | within negated => cases negated <;> simp [entry]
  | oneOf negated values =>
    have hvalues : values ≠ [] := h
    simpa [entry] using hvalues

theorem filled_query (h : c.test.Complete) : (c.query d).Filled := by
  obtain ⟨column, columnTerm, test⟩ := c
  cases test with
  | compare comparison => cases comparison <;> simp [query, comparisonQuery, Document.range]
  | within negated => simp [query, Document.range]
  | oneOf negated values =>
    have hvalues : values ≠ [] := h
    simpa [query] using hvalues

end Condition

/-! ### Filters and queries -/

/-- What becomes of criteria in a document, which is `written` for each and `whole` for them all.
The form for any value is that of a criterion that asks for any value and of no other, the values
bound are those that the criteria look for, and no list is empty. -/
structure WrittenInFull (d : Dialect) (criteria : List Criterion)
    (anyValue written : Condition → Document Value) (whole : Document Value) : Prop where
  anyValue_iff : ∀ c ∈ criteria,
    written c.condition = anyValue c.condition ↔ c.condition.test.comparison = .isNotNull
  values : ∀ c ∈ criteria, (written c.condition).labels = c.condition.test.sought d
  allValues : whole.labels = criteria.flatMap fun c => c.condition.test.sought d
  filled : whole.Filled

section Criteria
variable {criteria : List Criterion} (h : ∀ c ∈ criteria, c.condition.fault? = none) (d : Dialect)
include h

/-- The values of the criteria are those that their tests look for. -/
theorem flatMap_args_bindings :
    (criteria.flatMap (Criterion.bindings d)).flatMap Statement.args =
      criteria.flatMap fun c => c.condition.test.sought d := by
  rw [List.flatMap_assoc]
  refine List.flatMap_congr fun c hc => ?_
  rw [Criterion.bindings, Condition.operands_fragment]
  exact Test.args_bindings d (Condition.fault?_eq_none_iff.1 (h c hc))

theorem filterOf_writtenInFull :
    WrittenInFull d criteria (fun _ => .entry "$ne" .null) (fun c => (c.entry d).2)
      (filterOf d criteria) := by
  have hcomplete := fun c hc => Condition.fault?_eq_none_iff.1 (h c hc)
  refine ⟨fun c hc => ?_, fun c hc => ?_, ?_, ?_⟩
  · exact Condition.entry_eq_ne_null_iff d (hcomplete c hc)
  · rw [Document.labels_eq_args, Condition.operands_entry d (h c hc)]
    exact Test.args_bindings d (hcomplete c hc)
  · rw [Document.labels_eq_args, operands_filterOf d h, flatMap_args_bindings h]
  · exact filled_filterOf d fun c hc => Condition.filled_entry d (hcomplete c hc)

theorem queryOf_writtenInFull :
    WrittenInFull d criteria (fun c => .fieldExists c.field) (Condition.query d)
      (queryOf d criteria) := by
  have hcomplete := fun c hc => Condition.fault?_eq_none_iff.1 (h c hc)
  refine ⟨fun c hc => ?_, fun c hc => ?_, ?_, ?_⟩
  · exact Condition.query_eq_fieldExists_iff d (hcomplete c hc)
  · rw [Document.labels_eq_args, Condition.operands_query d (h c hc)]
    exact Test.args_bindings d (hcomplete c hc)
  · rw [Document.labels_eq_args, operands_queryOf d h, flatMap_args_bindings h]
  · exact filled_queryOf d fun c hc => Condition.filled_query d (hcomplete c hc)

end Criteria

/-! ### Filters of relational commands -/

/-- Fragments behind an operator that are what it asks for: nothing for a test for null, both ends
of a range, the values of a list in parentheses, and one value for any other operator. -/
inductive Comparison.Operands : Comparison → List Value → List Fragment → Prop
  | null {k} (h : k.testsNull = true) : Operands k [] []
  | one {k v term} (h : (k.testsNull || k.takesPattern || k.takesList || k.takesRange) = false) :
    Operands k [v] [.bound v term]
  | pattern {k v wildcards term} (h : k.takesPattern = true) :
    Operands k [v] [.pattern v wildcards term]
  | range {k low high lowTerm highTerm} (h : k.takesRange = true) :
    Operands k [low, high] [.bound low lowTerm, .word "AND", .bound high highTerm]
  | list {k values term} (h : k.takesList = true) (hvalues : values ≠ []) :
    Operands k values
      [.openParen, .joined " , " (values.map fun v => .bound v term), .closeParen]

/-- The fragment is a key of GROUP BY or ORDER BY. -/
def Fragment.isKey : Fragment → Bool
  | .groupKey _ _ | .sortKey _ _ _ _ => true
  | _ => false

/-- A fragment that may stand in a filter, whatever led to the filter. An operator has its operands
behind it. -/
inductive FilterItem : Fragment → Prop
  | word {text} (h : text ∈ ["AND", "OR", "NOT", "GROUP BY", "ORDER BY"]) : FilterItem (.word text)
  | openParen : FilterItem .openParen
  | closeParen : FilterItem .closeParen
  | verbatim {text args} (h : Text.isBlank text = false) : FilterItem (.verbatim text args)
  | keys {items} (h : ∀ key ∈ items, key.isKey = true) : FilterItem (.commaSeparated items)
  | condition {column term k values operands} (h : Comparison.Operands k values operands) :
    FilterItem (.blankSeparated ([.column column term, .word k.symbol] ++ operands))

/-- Behind the operator of a complete test stand the values it was given. -/
theorem Test.operands_of_complete {test : Test} (h : test.Complete) :
    Comparison.Operands test.comparison test.values test.operands := by
  cases test with
  | compare comparison operand term wildcards =>
    by_cases hnull : comparison.testsNull = true
    · simpa [values, operands, hnull] using .null hnull
    · obtain ⟨v, rfl⟩ := h.exists_operand hnull
      by_cases hpattern : comparison.takesPattern = true
      · simpa [values, operands, hnull, hpattern] using .pattern hpattern
      · simp only [values, operands, hnull, hpattern]
        have hkind := h.1
        refine .one (show (comparison.testsNull || _ || _ || _) = false from ?_)
        cases comparison <;>
          simp_all [Comparison.testsNull, Comparison.takesPattern, Comparison.takesList,
            Comparison.takesRange, Test.comparison]
  | within negated => exact .range (by cases negated <;> rfl)
  | oneOf negated values => exact .list (by cases negated <;> rfl) h

theorem Fragment.Accepted.filterItem {f : Fragment} (h : f.Accepted) : FilterItem f := by
  obtain ⟨c, hfault, rfl⟩ | ⟨text, args, hblank, rfl⟩ := h
  · exact .condition (Test.operands_of_complete (Condition.fault?_eq_none_iff.1 hfault))
  · exact .verbatim hblank

/-- A list of keys stays one when a key comes to its end. -/
theorem FilterItem.push {separator : String} {items : List Fragment} {key : Fragment}
    (hkey : key.isKey = true)
    (h : (Fragment.joined separator items).isCondition = false →
      FilterItem (.joined separator items))
    (hcondition : (Fragment.joined separator (items ++ [key])).isCondition = false) :
    FilterItem (.joined separator (items ++ [key])) := by
  have hplain : ∀ separator, (Fragment.joined separator [key]).isCondition = false := by
    cases key <;> simp_all [Fragment.isCondition, Fragment.isKey]
  rw [Fragment.isCondition_push hplain] at hcondition
  cases h hcondition with
  | keys hkeys =>
    refine .keys fun k hk => ?_
    rcases List.mem_append.1 hk with hk | hk
    · exact hkeys k hk
    · rcases List.mem_singleton.1 hk with rfl
      exact hkey
  | condition => simp [Fragment.isCondition] at hcondition

/-- What is no condition, but is put into filters. -/
theorem fillable_filterItem : Fillable fun f => f.isCondition = false → FilterItem f where
  word w hw _ := .word hw
  openParen _ := .openParen
  closeParen _ := .closeParen
  condition c _ h := absurd h (by
    simp [Condition.fragment, Fragment.blankSeparated, Fragment.isCondition])
  verbatim text args _ h := absurd h (by simp [Fragment.isCondition])
  keys _ := .keys (by simp)
  groupKey _ _ _ _ h hcondition := .push rfl h hcondition
  sortKey _ _ _ _ _ _ h hcondition := .push rfl h hcondition

theorem SqlCommand.filterItem_of_reachable {b : SqlCommand} (h : Reachable ({} : SqlCommand) b) :
    ∀ f ∈ b.filter, FilterItem f := by
  intro f hf
  by_cases hcondition : f.isCondition = true
  · exact ((settled_of_reachable h).accepted f hf hcondition).filterItem
  · exact forall_mem_filter_of_reachable fillable_filterItem h f hf (by simpa using hcondition)

/-- Commands keep complete conditions only, whatever conditions they are called with, and wherever.
So a filter or a query tests for any value only where that is asked for, never binds null for a
missing operand and has no empty list, in any dialect; and in the filter of a relational command
every operator has its operands, a list not being empty. -/
theorem stored_conditions_complete :
    (∀ b : DocumentCommand, Reachable {} b →
      (∀ c ∈ b.criteria, c.condition.test.Complete) ∧
        ∀ d, WrittenInFull d b.criteria (fun _ => .entry "$ne" .null) (fun c => (c.entry d).2)
          (filterOf d b.criteria)) ∧
    (∀ (layout : PathLayout) (b : SearchCommand), Reachable { layout } b →
      (∀ c ∈ b.content.criteria, c.condition.test.Complete) ∧
        ∀ d, WrittenInFull d b.content.criteria (fun c => .fieldExists c.field) (Condition.query d)
          (queryOf d b.content.criteria)) ∧
    ∀ b : SqlCommand, Reachable {} b → ∀ f ∈ b.filter, FilterItem f := by
  refine ⟨fun b hb => ?_, fun layout b hb => ?_, fun b hb => SqlCommand.filterItem_of_reachable hb⟩
  · have haccepted := DocumentCommand.accepted_of_reachable hb
    exact ⟨fun c hc => Condition.fault?_eq_none_iff.1 (haccepted c hc),
      filterOf_writtenInFull haccepted⟩
  · have haccepted := SearchCommand.accepted_of_reachable hb
    exact ⟨fun c hc => Condition.fault?_eq_none_iff.1 (haccepted c hc),
      queryOf_writtenInFull haccepted⟩

/-- A list operator with one operand, an operator without its operand and an empty list, and then
two complete conditions, the first of them in a group. -/
def incompleteFirst : List Move := [
  .call (.condition {} ⟨"a", none, .operand .inList (.int 1)⟩),
  .call (.condition {} ⟨"a", none, .alone .eq⟩),
  .call (.condition {} ⟨"a", none, .oneOf false [] none⟩),
  .openGroup {},
  .call (.condition {} ⟨"a", none, .oneOf false [.int 1, .int 2] none⟩),
  .closeGroup (.ok ()),
  .call (.condition { alternative := true } ⟨"b", none, .alone .isNotNull⟩)]

/-- Only the complete conditions are kept, by every family. -/
theorem stored_conditions_complete_incompleteFirst :
    let document := (Session.run ⟨({} : DocumentCommand), []⟩ incompleteFirst).command
    let search := (Session.run ⟨({ layout := .typeless } : SearchCommand), []⟩
      incompleteFirst).command
    let sql := (Session.run ⟨({} : SqlCommand), []⟩ incompleteFirst).command
    document.criteria.length = 2 ∧ (filterOf .mongo document.criteria).labels = [.int 1, .int 2] ∧
      (∀ c ∈ search.content.criteria, c.condition.test.Complete) ∧
      (queryOf .elastic search.content.criteria).Filled ∧
      sql.filter.length = 5 ∧ ∀ f ∈ sql.filter, FilterItem f := by
  intro document search sql
  obtain ⟨hdocument, hsearch, hsql⟩ := stored_conditions_complete
  obtain ⟨-, hfilter⟩ := hdocument document ⟨incompleteFirst, rfl⟩
  obtain ⟨hcomplete, hquery⟩ := hsearch .typeless search ⟨incompleteFirst, rfl⟩
  exact ⟨rfl, (hfilter .mongo).allValues.trans rfl, hcomplete, (hquery .elastic).filled, rfl,
    hsql sql ⟨incompleteFirst, rfl⟩⟩

end DataCommand
