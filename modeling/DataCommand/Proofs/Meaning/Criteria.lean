import DataCommand.Proofs.Criteria
import Mathlib.Data.Int.Order.Basic
import Mathlib.Data.List.SplitBy
import Mathlib.Order.Lattice

/-!
What criteria mean, apart from any backend. A row has a value of some linear order in each field, or
nothing; what the values of a command count for in this order is a parameter. Criteria are a
disjunction of conjunctions: every OR but that of the first criterion begins a new conjunction, and
a criterion is negated if its connective says so.
-/

namespace DataCommand

universe u v w

/-- The value is one thing that can be compared: neither null nor an array or an object. -/
def Value.isScalar : Value → Bool
  | .null | .json .null | .json (.arr _) | .json (.obj _) => false
  | _ => true

/-- What the fields of a row hold. -/
abbrev Row (α : Type u) := String → Option α

/-! ### Conditions without expressions and patterns -/

/-- The operator compares a field with its operand in the order of values. -/
def Comparison.isOrdering : Comparison → Bool
  | .eq | .ne | .gt | .ge | .lt | .le => true
  | _ => false

/-- The operands are scalars, without expressions around them, and no patterns. -/
def Test.Plain : Test → Prop
  | .compare comparison operand term _ =>
    Text.unlessBlank term = none ∧ comparison.takesPattern = false ∧
      (comparison.testsNull = false → ∀ v ∈ operand, v.isScalar)
  | .within _ low high lowTerm highTerm =>
    (Text.unlessBlank lowTerm = none ∧ Text.unlessBlank highTerm = none) ∧
      low.isScalar ∧ high.isScalar
  | .oneOf _ values term => Text.unlessBlank term = none ∧ ∀ v ∈ values, v.isScalar

/-- The condition is about a column itself and plain values. -/
structure Condition.Plain (c : Condition) : Prop where
  term : Text.unlessBlank c.term = none
  test : c.test.Plain

/-- The field of the condition holds a value, unless it is only tested for null. -/
def Row.Knows {α : Type u} (row : Row α) (c : Condition) : Prop :=
  c.test.comparison.testsNull = false → (row c.column).isSome

instance (t : Test) : Decidable t.Plain :=
  match t with
  | .compare comparison operand term _ => inferInstanceAs (Decidable
      (Text.unlessBlank term = none ∧ comparison.takesPattern = false ∧
        (comparison.testsNull = false → ∀ v ∈ operand, v.isScalar)))
  | .within _ low high lowTerm highTerm => inferInstanceAs (Decidable
      ((Text.unlessBlank lowTerm = none ∧ Text.unlessBlank highTerm = none) ∧
        low.isScalar ∧ high.isScalar))
  | .oneOf _ values term => inferInstanceAs (Decidable
      (Text.unlessBlank term = none ∧ ∀ v ∈ values, v.isScalar))

instance (c : Condition) : Decidable c.Plain :=
  decidable_of_iff (Text.unlessBlank c.term = none ∧ c.test.Plain)
    ⟨fun h => ⟨h.1, h.2⟩, fun h => ⟨h.term, h.test⟩⟩

instance {α : Type u} (row : Row α) (c : Condition) : Decidable (row.Knows c) :=
  inferInstanceAs (Decidable (c.test.comparison.testsNull = false → (row c.column).isSome))

/-- Without an expression around it a value is a placeholder of its own. -/
theorem Document.bindOver_plain (v : Value) {term : Option String}
    (h : Text.unlessBlank term = none) : bindOver v term = .hole v := by
  rw [bindOver, h]
  rfl

/-- The plain conditions that a command takes and a row has an answer to. -/
inductive Condition.Answered {α : Type u} (row : Row α) : Condition → Prop where
  | isNull (column : String) {term around : Option String} (operand : Option Value)
      (wildcards : Wildcards) (hterm : Text.unlessBlank term = none) :
      Answered row ⟨column, term, .compare .isNull operand around wildcards⟩
  | isNotNull (column : String) {term around : Option String} (operand : Option Value)
      (wildcards : Wildcards) (hterm : Text.unlessBlank term = none) :
      Answered row ⟨column, term, .compare .isNotNull operand around wildcards⟩
  | compare {column : String} {a : α} (hfield : row column = some a) {comparison : Comparison}
      (hcomparison : comparison.isOrdering) {v : Value} (hv : v.isScalar)
      {term around : Option String} (wildcards : Wildcards) (hterm : Text.unlessBlank term = none)
      (haround : Text.unlessBlank around = none) :
      Answered row ⟨column, term, .compare comparison (some v) around wildcards⟩
  | within {column : String} {a : α} (hfield : row column = some a) (negated : Bool)
      {low high : Value} (hlow : low.isScalar) (hhigh : high.isScalar)
      {term lowTerm highTerm : Option String} (hterm : Text.unlessBlank term = none)
      (hlowTerm : Text.unlessBlank lowTerm = none) (hhighTerm : Text.unlessBlank highTerm = none) :
      Answered row ⟨column, term, .within negated low high lowTerm highTerm⟩
  | oneOf {column : String} {a : α} (hfield : row column = some a) (negated : Bool)
      {values : List Value} (hvalues : ∀ v ∈ values, v.isScalar) {term around : Option String}
      (hterm : Text.unlessBlank term = none) (haround : Text.unlessBlank around = none) :
      Answered row ⟨column, term, .oneOf negated values around⟩

theorem Condition.Plain.answered {α : Type u} {row : Row α} {c : Condition} (hc : c.Plain)
    (hknows : row.Knows c) (hfault : c.fault? = none) : c.Answered row := by
  obtain ⟨column, term, test⟩ := c
  obtain ⟨hterm, htest⟩ := hc
  cases test with
  | compare comparison operand around wildcards =>
    obtain ⟨haround, hpattern, hoperand⟩ := htest
    by_cases hnull : comparison.testsNull = true
    · cases comparison with
      | isNull => exact .isNull column operand wildcards hterm
      | isNotNull => exact .isNotNull column operand wildcards hterm
      | _ => simp [Comparison.testsNull] at hnull
    · have hnull : comparison.testsNull = false := by simpa using hnull
      obtain ⟨a, ha⟩ := Option.isSome_iff_exists.1 (hknows hnull)
      cases operand with
      | none =>
        simp only [fault?, hnull] at hfault
        split at hfault <;> simp at hfault
      | some v =>
        refine .compare ha ?_ (hoperand hnull v rfl) wildcards hterm haround
        cases comparison <;>
          simp_all [Comparison.isOrdering, Comparison.takesPattern, Comparison.testsNull, fault?,
            Comparison.takesList, Comparison.takesRange]
  | within negated low high lowTerm highTerm =>
    obtain ⟨⟨hlowTerm, hhighTerm⟩, hlow, hhigh⟩ := htest
    have hnull : (Test.within negated low high lowTerm highTerm).comparison.testsNull = false := by
      cases negated <;> rfl
    obtain ⟨a, ha⟩ := Option.isSome_iff_exists.1 (hknows hnull)
    exact .within ha negated hlow hhigh hterm hlowTerm hhighTerm
  | oneOf negated values around =>
    have hnull : (Test.oneOf negated values around).comparison.testsNull = false := by
      cases negated <;> rfl
    obtain ⟨a, ha⟩ := Option.isSome_iff_exists.1 (hknows hnull)
    exact .oneOf ha negated htest.2 hterm htest.1

/-! ### Meaning -/

section Meaning
variable {α : Type u} (order : Value → α)

/-- What a value counts for. Null counts for nothing, and there is no order for arrays and objects.
-/
def Value.standing (v : Value) : Option α := if v.isScalar then some (order v) else none

@[simp]
theorem Value.standing_of_isScalar {v : Value} (h : v.isScalar) :
    v.standing order = some (order v) := by
  simp [standing, h]

variable [LinearOrder α] (row : Row α)

/-- The value of a field stands in the relation of an operator to another value. -/
def Comparison.relates (a b : α) : Comparison → Bool
  | .eq => decide (a = b)
  | .ne => decide (a ≠ b)
  | .gt => decide (a > b)
  | .ge => decide (a ≥ b)
  | .lt => decide (a < b)
  | .le => decide (a ≤ b)
  | _ => false

/-- The test holds of what is in a field. Of nothing only the test for null holds. -/
def Test.holds (field : Option α) : Test → Bool
  | .compare .isNull _ _ _ => field.isNone
  | .compare .isNotNull _ _ _ => field.isSome
  | .compare comparison operand _ _ =>
    field.any fun a => operand.any fun v => comparison.relates a (order v)
  | .within negated low high _ _ =>
    field.any fun a => negated ^^ decide (order low ≤ a ∧ a ≤ order high)
  | .oneOf negated values _ => field.any fun a => negated ^^ decide (a ∈ values.map order)

def Condition.holds (c : Condition) : Bool := c.test.holds order (row c.column)

variable {order} in
theorem Test.holds_compare {comparison : Comparison} (h : comparison.isOrdering = true) (a : α)
    (v : Value) (term : Option String) (wildcards : Wildcards) :
    (Test.compare comparison (some v) term wildcards).holds order (some a) =
      comparison.relates a (order v) := by
  cases comparison <;> first | rfl | exact absurd h (by decide)

def Criterion.holds (c : Criterion) : Bool := c.connective.negated ^^ c.condition.holds order row

/-- The criteria cut in front of each that begins an alternative. -/
def conjunctions (criteria : List Criterion) : List (List Criterion) :=
  criteria.splitBy fun _ c => !c.connective.alternative

/-- The row satisfies some criteria: all those of one of the conjunctions, or there are none. -/
def satisfies (criteria : List Criterion) : Bool :=
  criteria.isEmpty || (conjunctions criteria).any fun run => run.all (Criterion.holds order row)

end Meaning

/-- What was written part by part is read part by part. -/
theorem mapM_map_eq_some {γ : Type u} {δ : Type v} {ε : Type w} {write : γ → δ}
    {read : δ → Option ε} {meaning : γ → ε} :
    ∀ {xs : List γ}, (∀ x ∈ xs, read (write x) = some (meaning x)) →
      (xs.map write).mapM read = some (xs.map meaning)
  | [], _ => rfl
  | x :: xs, h => by
    rw [List.forall_mem_cons] at h
    rw [List.map_cons, List.mapM_cons, h.1, mapM_map_eq_some h.2]
    rfl

/-- What the value of a placeholder counts for. -/
def Document.standing {α : Type u} (order : Value → α) : Document Value → Option α
  | .hole v => v.standing order
  | _ => none

/-- A list of plain values counts for what each of them counts for. -/
theorem Document.mapM_standing {α : Type u} (order : Value → α) {values : List Value}
    (h : ∀ v ∈ values, v.isScalar) {term : Option String} (hterm : Text.unlessBlank term = none) :
    (values.map fun v => bindOver v term).mapM (standing order) = some (values.map order) :=
  mapM_map_eq_some fun v hv => by
    rw [bindOver_plain v hterm]
    exact Value.standing_of_isScalar order (h v hv)

/-! ### Alternatives are conjunctions -/

/-- The first alternative begins with the first criterion. -/
theorem alternatives_cons (c : Criterion) :
    ∀ rest : List Criterion, ∃ run runs, alternatives (c :: rest) = (c :: run) :: runs
  | [] => ⟨[], [], rfl⟩
  | d :: rest => by
    rw [alternatives]
    split
    · exact ⟨[], [], rfl⟩
    · split
      · exact ⟨[], _, rfl⟩
      · exact ⟨_, _, rfl⟩

/-- A criterion in front of others is an alternative of its own if an OR comes next, and else
belongs to the first one. -/
theorem alternatives_cons_cons (c d : Criterion) (rest : List Criterion) {run : List Criterion}
    {runs : List (List Criterion)} (h : alternatives (d :: rest) = (d :: run) :: runs) :
    alternatives (c :: d :: rest) =
      if d.connective.alternative then [c] :: (d :: run) :: runs else (c :: d :: run) :: runs := by
  rw [alternatives, h]

theorem alternatives_eq_conjunctions :
    ∀ criteria : List Criterion, alternatives criteria = conjunctions criteria
  | [] => rfl
  | [_] => rfl
  | c :: d :: rest => by
    have ih := alternatives_eq_conjunctions (d :: rest)
    obtain ⟨run, runs, hruns⟩ := alternatives_cons d rest
    obtain ⟨hflat, hnonempty, hchains, hbreaks⟩ := List.splitBy_eq_iff.1 (ih.symm.trans hruns)
    rw [alternatives_cons_cons c d rest hruns, conjunctions, eq_comm, List.splitBy_eq_iff]
    split
    · rename_i hor
      refine ⟨by simp [hflat], by simpa using hnonempty, ?_, ?_⟩
      · rw [List.forall_mem_cons]
        exact ⟨List.isChain_singleton _, hchains⟩
      · exact List.isChain_cons_cons.2 ⟨⟨by simp, by simp, by simp [hor]⟩, hbreaks⟩
    · rename_i hand
      rw [List.forall_mem_cons] at hchains
      refine ⟨by simp [hflat], by simpa using hnonempty, ?_, ?_⟩
      · rw [List.forall_mem_cons]
        exact ⟨List.isChain_cons_cons.2 ⟨by simpa using hand, hchains.1⟩, hchains.2⟩
      · cases runs with
        | nil => exact List.isChain_singleton _
        | cons next runs =>
          rw [List.isChain_cons_cons] at hbreaks ⊢
          exact ⟨by simpa using hbreaks.1, hbreaks.2⟩

/-- Where there are criteria, a row satisfies one of their alternatives. -/
theorem satisfies_of_alternatives {α : Type u} [LinearOrder α] (order : Value → α) (row : Row α)
    {criteria run : List Criterion} {runs : List (List Criterion)}
    (h : alternatives criteria = run :: runs) :
    satisfies order row criteria =
      (run :: runs).any fun run => run.all (Criterion.holds order row) := by
  have hne : criteria.isEmpty = false := by
    cases criteria with
    | nil => exact absurd h (by simp [alternatives])
    | cons c rest => rfl
  rw [satisfies, hne, Bool.false_or, ← alternatives_eq_conjunctions, h]

/-! ### Criteria that commands take -/

/-- Those of some criteria that a command takes. -/
def taken (criteria : List Criterion) : List Criterion :=
  criteria.filter fun c => c.condition.fault?.isNone

theorem taken_cons (c : Criterion) (rest : List Criterion) :
    taken (c :: rest) = taken [c] ++ taken rest := List.filter_append [c] rest

/-- A condition that is taken has an answer in a row that knows its field. -/
theorem Condition.answered_of_mem_taken {α : Type u} {row : Row α} {criteria : List Criterion}
    (h : ∀ c ∈ criteria, c.condition.Plain ∧ row.Knows c.condition) :
    ∀ c ∈ taken criteria, c.condition.Answered row := by
  intro c hc
  obtain ⟨hmem, hfault⟩ := List.mem_filter.1 hc
  exact (h c hmem).1.answered (h c hmem).2 (Option.isNone_iff_eq_none.1 hfault)

/-- The command after it has been asked to take some criteria, one after the other. -/
def Builder.restrictAll {σ : Type} [Builder σ] (b : σ) (criteria : List Criterion) : σ :=
  criteria.foldl (fun b c => (Builder.call (.condition c.connective c.condition) b).2) b

namespace DocumentCommand

/-- No condition has come yet, and no sort key keeps one from coming. -/
structure Unrestricted (b : DocumentCommand) : Prop where
  criteria : b.criteria = []
  stage : b.stage = .filtering

theorem restrict_snd {b : DocumentCommand} (hb : b.stage = .filtering) (c : Criterion) :
    (b.restrict c.connective c.condition).2 = { b with criteria := b.criteria ++ taken [c] } := by
  unfold restrict Condition.check
  cases hfault : c.condition.fault? with
  | some fault => simp [taken, hfault]
  | none => simp [taken, hfault, hb, Stage.admitsCondition]

/-- Of some criteria those are added to the command that it takes. -/
theorem restrictAll_eq : ∀ (criteria : List Criterion) {b : DocumentCommand},
    b.stage = .filtering →
    Builder.restrictAll b criteria = { b with criteria := b.criteria ++ taken criteria }
  | [], b, _ => by simp [Builder.restrictAll, taken]
  | c :: rest, b, hb => by
    have ih := restrictAll_eq rest (b := { b with criteria := b.criteria ++ taken [c] }) hb
    have hhead : Builder.restrictAll b (c :: rest) =
        Builder.restrictAll (b.restrict c.connective c.condition).2 rest := rfl
    rw [hhead, restrict_snd hb, ih, taken_cons c rest]
    simp

end DocumentCommand

/-! ### A sample -/

/-- Numbers count for themselves. -/
def integerOrder : Value → Int
  | .int n => n
  | _ => 0

/-- `a = 3`, `b = 5`, and nothing else. -/
def sampleRow : Row Int
  | "a" => some 3
  | "b" => some 5
  | _ => none

/-- `a NOT BETWEEN 4 AND 6 AND NOT a = 3 AND NOT a IN (7) OR NOT b > 8 AND c IS NULL`, with a list
without values in the middle, which no command takes. -/
def sampleCriteria : List Criterion := [
  ⟨{}, ⟨"a", none, .within true (.int 4) (.int 6) none none⟩⟩,
  ⟨{ negated := true }, ⟨"a", none, .operand .eq (.int 3)⟩⟩,
  ⟨{ negated := true }, ⟨"a", none, .oneOf false [.int 7] none⟩⟩,
  ⟨{}, ⟨"a", none, .oneOf false [] none⟩⟩,
  ⟨{ alternative := true, negated := true }, ⟨"b", none, .operand .gt (.int 8)⟩⟩,
  ⟨{}, ⟨"c", none, .alone .isNull⟩⟩]

theorem sampleCriteria_plain :
    ∀ c ∈ sampleCriteria, c.condition.Plain ∧ sampleRow.Knows c.condition := by decide

end DataCommand
