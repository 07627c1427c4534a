import DataCommand.Dialect.Builtin
import DataCommand.Proofs.Meaning.Relational

/-!
The documents that a filter expression selects. The entries of an object must all hold, and of a key
that is repeated only the last entry counts; `$and`, `$or` and `$nor` connect several expressions,
any other key is a field with a value or with operators. So the expression of a document command
selects exactly the documents that satisfy its criteria, as the filter of a relational command does.
-/

namespace DataCommand

universe u

/-- The entries that count: of those with one key the last. -/
def lastOfEachKey {γ : Type u} : List (String × γ) → List (String × γ)
  | [] => []
  | e :: rest => if rest.any fun later => later.1 == e.1 then lastOfEachKey rest
    else e :: lastOfEachKey rest

/-- The key names an operator and no field. -/
def isOperator (key : String) : Bool := key.toList.head? == some '$'

/-- The operators between expressions. -/
def selectionConnective : String → Option (List Bool → Bool)
  | "$and" => some fun verdicts => verdicts.all id
  | "$or" => some fun verdicts => verdicts.any id
  | "$nor" => some fun verdicts => !verdicts.any id
  | _ => none

section Selection
variable {α : Type u} [LinearOrder α] (order : Value → α)

/-- The verdict of an operator on a field. What is not there is neither above nor below anything. -/
def selectsOperator (field : Option α) : String → Document Value → Option Bool
  | "$ne", .null => some field.isSome
  | "$ne", .hole v => (v.standing order).map fun b => decide (field ≠ some b)
  | "$gt", .hole v => (v.standing order).map fun b => field.any fun a => decide (a > b)
  | "$gte", .hole v => (v.standing order).map fun b => field.any fun a => decide (a ≥ b)
  | "$lt", .hole v => (v.standing order).map fun b => field.any fun a => decide (a < b)
  | "$lte", .hole v => (v.standing order).map fun b => field.any fun a => decide (a ≤ b)
  | "$in", .array items =>
    (items.mapM (Document.standing order)).map fun bs => field.any bs.contains
  | "$nin", .array items =>
    (items.mapM (Document.standing order)).map fun bs => !field.any bs.contains
  | _, _ => none

/-- The verdict of the value of a field on what the field holds. -/
def selectsField (field : Option α) : Document Value → Option Bool
  | .null => some field.isNone
  | .hole v => (v.standing order).map fun b => decide (field = some b)
  | .object operators =>
    ((lastOfEachKey operators).mapM fun e => selectsOperator order field e.1 e.2).map fun verdicts =>
      verdicts.all id
  | _ => none

variable (row : Row α)

mutual

/-- The verdict of a filter expression on a document; none if it is no such expression. -/
def selects : Document Value → Option Bool
  | .object entries =>
    ((lastOfEachKey (selectsEntries entries)).mapM Prod.snd).map fun verdicts => verdicts.all id
  | _ => none

/-- The verdicts of the entries of an expression. -/
def selectsEntries : List (String × Document Value) → List (String × Option Bool)
  | [] => []
  | (key, d) :: rest => (key, selectsEntry key d) :: selectsEntries rest

/-- The verdict of one entry: of expressions behind an operator, of which there must be some, or of
the value of a field. -/
def selectsEntry (key : String) : Document Value → Option Bool
  | .array items =>
    if items.isEmpty then none
    else (selectionConnective key).bind fun connect => (selectsItems items).map connect
  | d => if isOperator key then none else selectsField order (row key) d

/-- The verdicts of several expressions. -/
def selectsItems : List (Document Value) → Option (List Bool)
  | [] => some []
  | d :: rest => (selects d).bind fun verdict => (selectsItems rest).map fun rest => verdict :: rest

end

variable {order} {row}

theorem selectsItems_eq_mapM (items : List (Document Value)) :
    selectsItems order row items = items.mapM (selects order row) := by
  induction items with
  | nil => rfl
  | cons d rest ih =>
    rw [selectsItems, ih, List.mapM_cons]
    cases selects order row d with
    | none => rfl
    | some verdict => cases rest.mapM (selects order row) <;> rfl

theorem selectsEntries_eq_map (entries : List (String × Document Value)) :
    selectsEntries order row entries =
      entries.map fun e => (e.1, selectsEntry order row e.1 e.2) := by
  induction entries with
  | nil => rfl
  | cons e rest ih => rw [selectsEntries, ih, List.map_cons]

/-- The operator between some expressions connects their verdicts. -/
theorem selectsEntry_array {γ : Type} {key : String} {connect : List Bool → Bool}
    (hkey : selectionConnective key = some connect) {write : γ → Document Value}
    {meaning : γ → Bool} {xs : List γ} (hne : xs ≠ [])
    (h : ∀ x ∈ xs, selects order row (write x) = some (meaning x)) :
    selectsEntry order row key (.array (xs.map write)) = some (connect (xs.map meaning)) := by
  rw [selectsEntry, if_neg (by simpa using hne), hkey, selectsItems_eq_mapM, mapM_map_eq_some h]
  rfl

/-- An expression of one entry selects what the entry selects. -/
theorem selects_entry (key : String) (d : Document Value) :
    selects order row (.entry key d) = selectsEntry order row key d := by
  rw [Document.entry, selects, selectsEntries, selectsEntries]
  cases selectsEntry order row key d <;> simp [lastOfEachKey]

/-! ### Conditions -/

variable {c : Condition} (d : Dialect)

/-- The verdict of the entry of a field is that of its value. -/
theorem selectsEntry_field {key : String} (hkey : isOperator key = false) {value : Document Value}
    (hvalue : ∀ items, value ≠ .array items) :
    selectsEntry order row key value = selectsField order (row key) value := by
  cases value with
  | array items => exact absurd rfl (hvalue items)
  | _ => simp [selectsEntry, hkey]

theorem selectsField_operator (field : Option α) (operator : String) (operand : Document Value) :
    selectsField order field (.entry operator operand) =
      selectsOperator order field operator operand := by
  rw [Document.entry, selectsField]
  simp only [lastOfEachKey, List.any_nil, Bool.false_eq_true, if_false, List.mapM_cons,
    List.mapM_nil]
  cases selectsOperator order field operator operand <;> simp

/-- The verdict of a comparison that needs an operand. -/
theorem selectsField_comparison (a : α) {comparison : Comparison}
    (h : comparison.isOrdering = true) {v : Value} (hv : v.isScalar) {around : Option String}
    (haround : Text.unlessBlank around = none) (wildcards : Wildcards) (column : String) :
    selectsField order (some a)
        (Condition.comparisonEntry d column comparison v around wildcards).2 =
      some (comparison.relates a (order v)) := by
  have hbind := Document.bindOver_plain v haround
  have hstanding := Value.standing_of_isScalar order hv
  cases comparison with
  | eq =>
    simp [Condition.comparisonEntry, hbind, selectsField, hstanding, Comparison.relates]
  | ne | gt | ge | lt | le =>
    simp only [Condition.comparisonEntry, hbind, selectsField_operator]
    simp [selectsOperator, hstanding, Comparison.relates]
  | _ => exact absurd h (by decide)

/-- A range that is negated is a choice between what is below and what is above it. -/
theorem selectsEntry_outside {column : String} (hcolumn : isOperator column = false) {a : α}
    (hfield : row column = some a) {low high : Value} (hlow : low.isScalar)
    (hhigh : high.isScalar) :
    selectsEntry order row "$or" (.array [
        .entry column (.entry "$lt" (.hole low)), .entry column (.entry "$gt" (.hole high))]) =
      some (!decide (order low ≤ a ∧ a ≤ order high)) := by
  have hbranch : ∀ (operator : String) (v : Value),
      selects order row (.entry column (.entry operator (.hole v))) =
        selectsOperator order (some a) operator (.hole v) := by
    intro operator v
    rw [selects_entry, selectsEntry_field hcolumn (by simp [Document.entry]),
      selectsField_operator, hfield]
  simp only [selectsEntry, selectsItems, hbranch]
  simp [selectionConnective, selectsOperator, hlow, hhigh, ← not_le, Bool.not_and]

/-- The verdict of the entry of a condition is whether the condition holds. -/
theorem selectsEntry_entry (h : c.Answered row) (hcolumn : isOperator c.column = false) :
    selectsEntry order row (c.entry d).1 (c.entry d).2 = some (c.holds order row) := by
  cases h with
  | isNull column operand wildcards hterm =>
    simp only [Condition.entry, Condition.comparisonEntry, Condition.field, hterm,
      Option.getD_none]
    rw [selectsEntry_field hcolumn (by simp)]
    rfl
  | isNotNull column operand wildcards hterm =>
    simp only [Condition.entry, Condition.comparisonEntry, Condition.field, hterm,
      Option.getD_none]
    rw [selectsEntry_field hcolumn (by simp [Document.entry]), selectsField_operator]
    rfl
  | @compare column a hfield comparison hcomparison v hv term around wildcards hterm haround =>
    have hkey : (Condition.comparisonEntry d column comparison v around wildcards).1 = column := by
      cases comparison <;> rfl
    have hvalue : ∀ items,
        (Condition.comparisonEntry d column comparison v around wildcards).2 ≠ .array items := by
      intro items
      cases comparison <;>
        simp [Condition.comparisonEntry, Document.bindOver_plain _ haround, Document.entry]
    simp only [Condition.entry, Condition.field, hterm, Option.getD_none, Option.getD_some, hkey]
    rw [selectsEntry_field hcolumn hvalue, hfield,
      selectsField_comparison d a hcomparison hv haround, Condition.holds, hfield,
      Test.holds_compare hcomparison]
  | @within column a hfield negated low high hlow hhigh term lowTerm highTerm hterm hlowTerm
      hhighTerm =>
    cases negated with
    | false =>
      simp only [Condition.entry, Condition.field, hterm, Option.getD_none,
        Document.bindOver_plain _ hlowTerm, Document.bindOver_plain _ hhighTerm,
        Bool.false_eq_true, if_false]
      rw [selectsEntry_field hcolumn (by simp), hfield]
      simp [selectsField, lastOfEachKey, selectsOperator, hlow, hhigh, Condition.holds, Test.holds,
        hfield]
    | true =>
      simp only [Condition.entry, Condition.field, hterm, Option.getD_none,
        Document.bindOver_plain _ hlowTerm, Document.bindOver_plain _ hhighTerm, if_true]
      rw [selectsEntry_outside hcolumn hfield hlow hhigh]
      simp [Condition.holds, Test.holds, hfield]
  | @oneOf column a hfield negated values hvalues term around hterm haround =>
    have hread := Document.mapM_standing order hvalues haround
    simp only [Condition.entry, Condition.field, hterm, Option.getD_none]
    rw [selectsEntry_field hcolumn (by simp [Document.entry]), selectsField_operator, hfield]
    cases negated <;>
      simp [selectsOperator, hread, Condition.holds, Test.holds, hfield]

/-- The verdict of the entry of a criterion is whether the criterion holds. -/
theorem selectsEntry_criterion {c : Criterion} (h : c.condition.Answered row)
    (hcolumn : isOperator c.condition.column = false) :
    selectsEntry order row (c.entry d).1 (c.entry d).2 = some (c.holds order row) := by
  have hcondition : selectsEntry order row (c.condition.entry d).1 (c.condition.entry d).2 =
      some (c.condition.holds order row) := selectsEntry_entry d h hcolumn
  unfold Criterion.entry
  cases hnegated : c.connective.negated with
  | false => simpa [Criterion.holds, hnegated] using hcondition
  | true =>
    simp only [if_true, selectsEntry, selectsItems, selects_entry, hcondition]
    simp [selectionConnective, Criterion.holds, hnegated]

/-! ### Criteria -/

/-- No key is repeated, so all entries count. -/
theorem lastOfEachKey_of_distinctKeys {β : Type} {γ : Type u} (f : String × Document β → γ) :
    ∀ {entries : List (String × Document β)}, Document.distinctKeys entries = true →
    lastOfEachKey (entries.map fun e => (e.1, f e)) = entries.map fun e => (e.1, f e)
  | [], _ => rfl
  | (key, value) :: rest, h => by
    obtain ⟨hkey, hrest⟩ := Bool.and_eq_true_iff.1 h
    have ih := lastOfEachKey_of_distinctKeys f hrest
    have hlast : (rest.map fun e => (e.1, f e)).any (fun later => later.1 == key) = false := by
      simpa [List.any_eq_false] using hkey
    rw [List.map_cons, lastOfEachKey, hlast, ih]
    rfl

/-- Entries that are put together select what all of them select. -/
theorem selects_together {run : List Criterion} (hne : run ≠ [])
    (h : ∀ c ∈ run, c.condition.Answered row ∧ isOperator c.condition.column = false) :
    selects order row (Document.together (run.map (Criterion.entry d))) =
      some (run.all (Criterion.holds order row)) := by
  have hentry : ∀ c ∈ run, selectsEntry order row (c.entry d).1 (c.entry d).2 =
      some (c.holds order row) := fun c hc => selectsEntry_criterion d (h c hc).1 (h c hc).2
  unfold Document.together
  split
  · rename_i hdistinct
    have hverdicts : ((run.map (Criterion.entry d)).map fun e =>
        (e.1, selectsEntry order row e.1 e.2)).mapM Prod.snd =
          some (run.map (Criterion.holds order row)) := by
      rw [List.map_map]
      exact mapM_map_eq_some hentry
    rw [selects, selectsEntries_eq_map, lastOfEachKey_of_distinctKeys _ hdistinct, hverdicts,
      Option.map_some, List.all_map]
    rfl
  · have hitem : ∀ c ∈ run, selects order row (.entry (c.entry d).1 (c.entry d).2) =
        some (c.holds order row) := fun c hc => (selects_entry _ _).trans (hentry c hc)
    rw [selects_entry, List.map_map]
    refine (selectsEntry_array rfl hne hitem).trans ?_
    rw [List.all_map]
    rfl

/-- The filter expression of some criteria selects the documents that satisfy them. -/
theorem selects_filterOf {criteria : List Criterion}
    (h : ∀ c ∈ criteria, c.condition.Answered row ∧ isOperator c.condition.column = false) :
    selects order row (filterOf d criteria) = some (satisfies order row criteria) := by
  have hrun : ∀ run ∈ alternatives criteria,
      selects order row (Document.together (run.map (Criterion.entry d))) =
        some (run.all (Criterion.holds order row)) := fun run hrun =>
    selects_together d (ne_nil_of_mem_alternatives _ _ hrun) fun c hc =>
      h c (mem_of_mem_alternatives hrun hc)
  unfold filterOf
  cases hruns : alternatives criteria with
  | nil =>
    have hnil : criteria = [] := by rw [← flatten_alternatives criteria, hruns]; rfl
    rw [hnil]
    rfl
  | cons run runs =>
    rw [hruns] at hrun
    rw [satisfies_of_alternatives order row hruns]
    cases runs with
    | nil =>
      rw [List.any_cons, List.any_nil, Bool.or_false]
      exact hrun run (by simp)
    | cons next runs =>
      have hne : run :: next :: runs ≠ [] := List.cons_ne_nil _ _
      refine (selects_entry _ _).trans ((selectsEntry_array rfl hne hrun).trans ?_)
      rw [List.any_map]
      rfl

/-- The filter expression of a command that was asked to take some criteria, with the arguments in
its holes, selects the documents that satisfy those that were taken. -/
theorem DocumentCommand.selects_restrictAll {b : DocumentCommand} (hb : b.Unrestricted)
    {criteria : List Criterion}
    (h : ∀ c ∈ taken criteria, c.condition.Answered row ∧ isOperator c.condition.column = false) :
    let after := Builder.restrictAll b criteria
    selects order row ((filterOf d after.criteria).resolve (after.filter d).args).1 =
      some (satisfies order row (taken criteria)) := by
  intro after
  have hcriteria : after.criteria = taken criteria := by
    rw [show after = _ from restrictAll_eq criteria hb.stage, hb.criteria, List.nil_append]
  rw [DocumentCommand.filter, Document.shellStatement, Document.resolve_own, hcriteria]
  exact selects_filterOf d h

end Selection

/-- Asked to take the same plain conditions, a relational and a document command agree on every row
that has values in the fields that are compared: the flat filter of the one is true in the row
exactly if the filter expression of the other selects it, and that is exactly if the row satisfies
the conditions that were taken. -/
theorem relational_and_document_filters_agree {α : Type u} [LinearOrder α] (order : Value → α)
    (row : Row α) {criteria : List Criterion}
    (h : ∀ c ∈ criteria, (c.condition.Plain ∧ row.Knows c.condition) ∧
      isOperator c.condition.column = false)
    {sql : SqlCommand} (hsql : sql.Unrestricted) {document : DocumentCommand}
    (hdocument : document.Unrestricted) (s : Style) (d : Dialect) :
    let relational := Builder.restrictAll sql criteria
    let documents := Builder.restrictAll document criteria
    let truth := sqlTruth order row
      (Fragment.resolveAll relational.filter (relational.filterText s).args).1
    let selected := selects order row
      ((filterOf d documents.criteria).resolve (documents.filter d).args).1
    truth = selected.map Truth.ofBool ∧
      selected = some (satisfies order row (taken criteria)) := by
  intro relational documents truth selected
  have hanswered := Condition.answered_of_mem_taken fun c hc => (h c hc).1
  have htruth : truth = some (.ofBool (satisfies order row (taken criteria))) :=
    SqlCommand.sqlTruth_restrictAll hsql hanswered s
  have hselected : selected = some (satisfies order row (taken criteria)) :=
    DocumentCommand.selects_restrictAll d hdocument fun c hc =>
      ⟨hanswered c hc, (h c (List.mem_of_mem_filter hc)).2⟩
  exact ⟨by rw [htruth, hselected]; rfl, hselected⟩

theorem relational_and_document_filters_agree_sampleRow :
    let relational := Builder.restrictAll ({ target := { table := "t" } } : SqlCommand)
      sampleCriteria
    let documents := Builder.restrictAll ({ target := { table := "t" } } : DocumentCommand)
      sampleCriteria
    sqlTruth integerOrder sampleRow (Fragment.resolveAll relational.filter
        (relational.filterText { dialect := .standard, quote := false }).args).1 = some .yes ∧
      selects integerOrder sampleRow ((filterOf .mongo documents.criteria).resolve
        (documents.filter .mongo).args).1 = some true := by
  have hcolumns : ∀ c ∈ sampleCriteria, isOperator c.condition.column = false := by decide
  have hsql : ({ target := { table := "t" } } : SqlCommand).Unrestricted := rfl
  have hdocument : ({ target := { table := "t" } } : DocumentCommand).Unrestricted := ⟨rfl, rfl⟩
  obtain ⟨htruth, hselected⟩ := relational_and_document_filters_agree integerOrder sampleRow
    (fun c hc => ⟨sampleCriteria_plain c hc, hcolumns c hc⟩) hsql hdocument
    { dialect := .standard, quote := false } .mongo
  have hsatisfied : satisfies integerOrder sampleRow (taken sampleCriteria) = true := by decide
  rw [hsatisfied] at hselected
  rw [hselected] at htruth
  exact ⟨htruth, hselected⟩

end DataCommand
