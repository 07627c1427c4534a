import DataCommand.Proofs.Filter.Refinement
import DataCommand.Proofs.Meaning.Criteria
import DataCommand.Proofs.Meaning.Resolve

/-!
The truth of a relational filter in a row. The filter is a flat sequence of predicates and words, in
which NOT binds tighter than AND, and AND tighter than OR. Truth has three values, and a comparison
with nothing is unknown; so a filter without groups is true or false in every row that has values in
the fields it compares, and it is true exactly if the row satisfies the criteria.
-/

namespace DataCommand

universe u

/-- Truth in SQL. -/
inductive Truth where
  | no
  | unknown
  | yes
  deriving DecidableEq, Repr

namespace Truth

def ofBool (b : Bool) : Truth := if b then .yes else .no

def not : Truth → Truth
  | .no => .yes
  | .unknown => .unknown
  | .yes => .no

def and : Truth → Truth → Truth
  | .no, _ | _, .no => .no
  | .yes, .yes => .yes
  | _, _ => .unknown

def or : Truth → Truth → Truth
  | .yes, _ | _, .yes => .yes
  | .no, .no => .no
  | _, _ => .unknown

def all (ts : List Truth) : Truth := ts.foldr and .yes

def any (ts : List Truth) : Truth := ts.foldr or .no

/-- A relation between what two things hold, unknown if one of them holds nothing. -/
def relate {α : Type u} (p : α → α → Bool) : Option α → Option α → Truth
  | some a, some b => ofBool (p a b)
  | _, _ => .unknown

@[simp]
theorem not_ofBool (b : Bool) : (ofBool b).not = ofBool (!b) := by cases b <;> rfl

@[simp]
theorem and_ofBool (a b : Bool) : (ofBool a).and (ofBool b) = ofBool (a && b) := by
  cases a <;> cases b <;> rfl

@[simp]
theorem or_ofBool (a b : Bool) : (ofBool a).or (ofBool b) = ofBool (a || b) := by
  cases a <;> cases b <;> rfl

theorem all_map_ofBool {γ : Type u} (f : γ → Bool) :
    ∀ xs : List γ, all (xs.map fun x => ofBool (f x)) = ofBool (xs.all f)
  | [] => rfl
  | x :: xs => by
    have ih := all_map_ofBool f xs
    simp only [all, List.map_cons, List.foldr_cons] at ih ⊢
    rw [ih, and_ofBool, List.all_cons]

theorem any_map_ofBool {γ : Type u} (f : γ → Bool) :
    ∀ xs : List γ, any (xs.map fun x => ofBool (f x)) = ofBool (xs.any f)
  | [] => rfl
  | x :: xs => by
    have ih := any_map_ofBool f xs
    simp only [any, List.map_cons, List.foldr_cons] at ih ⊢
    rw [ih, or_ofBool, List.any_cons]

end Truth

/-! ### The truth of a filter -/

namespace Fragment

/-- The fragment is this word. -/
def isWord (text : String) : Fragment → Bool
  | .word other => other == text
  | _ => false

/-- The value behind a placeholder alone. -/
def bound? : Fragment → Option Value
  | .bound v none => some v
  | _ => none

end Fragment

section Truth
variable {α : Type u} [LinearOrder α] (order : Value → α)

/-- The relation that an operator of SQL stands for. -/
def sqlRelation : String → Option (α → α → Bool)
  | "=" => some fun a b => decide (a = b)
  | "<>" => some fun a b => decide (a ≠ b)
  | ">" => some fun a b => decide (a > b)
  | ">=" => some fun a b => decide (a ≥ b)
  | "<" => some fun a b => decide (a < b)
  | "<=" => some fun a b => decide (a ≤ b)
  | _ => none

/-- `x BETWEEN low AND high` -/
def sqlBetween (field : Option α) (low high : Value) : Truth :=
  (Truth.relate (fun a b => decide (a ≥ b)) field (low.standing order)).and
    (Truth.relate (fun a b => decide (a ≤ b)) field (high.standing order))

/-- `x IN ( v , w )` -/
def sqlIn (field : Option α) (values : List Value) : Truth :=
  .any (values.map fun v => Truth.relate (fun a b => decide (a = b)) field (v.standing order))

/-- The truth of an operator with its operands behind a field. -/
def sqlTest (field : Option α) (operator : String) (operands : List Fragment) : Option Truth :=
  match operator, operands with
  | "IS NULL", [] => some (.ofBool field.isNone)
  | "IS NOT NULL", [] => some (.ofBool field.isSome)
  | "BETWEEN", [.bound low none, .word "AND", .bound high none] =>
    some (sqlBetween order field low high)
  | "NOT BETWEEN", [.bound low none, .word "AND", .bound high none] =>
    some (sqlBetween order field low high).not
  | "IN", [.openParen, .joined " , " items, .closeParen] =>
    (items.mapM Fragment.bound?).map fun values => sqlIn order field values
  | "NOT IN", [.openParen, .joined " , " items, .closeParen] =>
    (items.mapM Fragment.bound?).map fun values => (sqlIn order field values).not
  | operator, [.bound v none] =>
    (sqlRelation operator).map fun p => Truth.relate p field (v.standing order)
  | _, _ => none

variable (row : Row α)

/-- The truth of a predicate. -/
def sqlPredicate : Fragment → Option Truth
  | .joined " " (.column name none :: .word operator :: operands) =>
    sqlTest order (row name) operator operands
  | _ => none

/-- The truth of a predicate behind some NOTs. -/
def sqlFactor : List Fragment → Option Truth
  | [f] => sqlPredicate order row f
  | .word "NOT" :: rest => (sqlFactor rest).map Truth.not
  | _ => none

/-- The truth of what stands between two ORs. -/
def sqlConjunction (fs : List Fragment) : Option Truth :=
  ((fs.splitOnP (Fragment.isWord "AND")).mapM (sqlFactor order row)).map Truth.all

/-- The truth of a filter. One without anything in it holds everywhere. -/
def sqlTruth (fs : List Fragment) : Option Truth :=
  if fs.isEmpty then some .yes
  else ((fs.splitOnP (Fragment.isWord "OR")).mapM (sqlConjunction order row)).map Truth.any

/-! ### Predicates -/

variable {order} {row}

theorem sqlTest_symbol (field : Option α) {comparison : Comparison}
    (h : comparison.isOrdering = true) (v : Value) :
    sqlTest order field comparison.symbol [.bound v none] =
      some (Truth.relate (fun a b => comparison.relates a b) field (v.standing order)) := by
  cases comparison <;> first | rfl | exact absurd h (by decide)

theorem sqlBetween_eq (a : α) {low high : Value} (hlow : low.isScalar) (hhigh : high.isScalar) :
    sqlBetween order (some a) low high = .ofBool (decide (order low ≤ a ∧ a ≤ order high)) := by
  simp [sqlBetween, hlow, hhigh, Truth.relate]

theorem sqlIn_eq (a : α) {values : List Value} (h : ∀ v ∈ values, v.isScalar) :
    sqlIn order (some a) values = .ofBool (decide (a ∈ values.map order)) := by
  have hequal : ∀ v ∈ values,
      Truth.relate (fun a b => decide (a = b)) (some a) (v.standing order) =
        .ofBool (decide (a = order v)) := by
    intro v hv
    rw [Value.standing_of_isScalar order (h v hv), Truth.relate]
  rw [sqlIn, List.map_congr_left hequal, Truth.any_map_ofBool]
  congr 1
  rw [Bool.eq_iff_iff]
  simp only [List.any_eq_true, decide_eq_true_eq, List.mem_map]
  exact exists_congr fun v => and_congr_right fun _ => eq_comm

/-- The predicate of a condition is true or false as the condition is. -/
theorem sqlPredicate_fragment {c : Condition} (h : c.Answered row) :
    sqlPredicate order row c.fragment = some (.ofBool (c.holds order row)) := by
  cases h with
  | isNull column operand wildcards hterm | isNotNull column operand wildcards hterm =>
    simp [Condition.fragment, Fragment.blankSeparated, hterm, Test.operands, Comparison.testsNull,
      Test.comparison, Comparison.symbol, sqlPredicate, sqlTest, Condition.holds, Test.holds]
  | @compare column a hfield comparison hcomparison v hv term around wildcards hterm haround =>
    have hoperands : (Test.compare comparison (some v) around wildcards).operands =
        [.bound v none] := by
      cases comparison <;>
        simp_all [Test.operands, Comparison.isOrdering, Comparison.testsNull,
          Comparison.takesPattern]
    rw [Condition.fragment, Fragment.blankSeparated, hterm, hoperands]
    simp only [List.cons_append, List.nil_append, sqlPredicate, Test.comparison]
    rw [sqlTest_symbol _ hcomparison, hfield, Value.standing_of_isScalar order hv, Truth.relate,
      Condition.holds, hfield, Test.holds_compare hcomparison]
  | within hfield negated hlow hhigh hterm hlowTerm hhighTerm =>
    cases negated <;>
      simp [Condition.fragment, Fragment.blankSeparated, hterm, hlowTerm, hhighTerm, Test.operands,
        Test.comparison, Comparison.symbol, sqlPredicate, sqlTest, Condition.holds, Test.holds,
        hfield, sqlBetween_eq _ hlow hhigh]
  | @oneOf column a hfield negated values hvalues term around hterm haround =>
    have hbound : (values.map fun v => Fragment.bound v none).mapM Fragment.bound? =
        some (values.map id) := mapM_map_eq_some fun _ _ => rfl
    rw [List.map_id] at hbound
    cases negated <;>
      simp [Condition.fragment, Fragment.blankSeparated, hterm, haround, Test.operands,
        Test.comparison, Comparison.symbol, sqlPredicate, sqlTest, Condition.holds, Test.holds,
        hfield, sqlIn_eq a hvalues, hbound]

end Truth

/-! ### The flat sequence -/

/-- A sequence with a separator between its parts is cut into the parts again. -/
theorem splitOnP_intercalate {γ : Type u} {p : γ → Bool} {sep : γ} (hsep : p sep = true) :
    ∀ {parts : List (List γ)}, parts ≠ [] → (∀ part ∈ parts, ∀ x ∈ part, p x = false) →
    ([sep].intercalate parts).splitOnP p = parts
  | [], hne, _ => absurd rfl hne
  | [part], _, h => by
    rw [List.intercalate_singleton]
    exact List.splitOnP_eq_singleton (h part (by simp))
  | part :: next :: rest, _, h => by
    rw [List.forall_mem_cons] at h
    have ih := splitOnP_intercalate hsep (List.cons_ne_nil next rest) h.2
    rw [List.intercalate_cons_cons, List.append_assoc, List.singleton_append,
      List.splitOnP_append_cons_of_forall_mem h.1 sep hsep, ih]

namespace Criterion

/-- A criterion as an element of a filter. -/
def restriction (c : Criterion) : Restriction := .condition c.connective c.condition

/-- The fragments of a criterion without its connective: a predicate behind its NOT. -/
def predicate (c : Criterion) : List Fragment :=
  (if c.connective.negated then [.word "NOT"] else []) ++ [c.condition.fragment]

end Criterion

open Restriction

/-- What stands in front of the first part stands in front of the whole sequence. -/
theorem intercalate_append_cons {γ : Type u} (separator front part : List γ)
    (rest : List (List γ)) :
    separator.intercalate ((front ++ part) :: rest) =
      front ++ separator.intercalate (part :: rest) := by
  cases rest <;> simp [List.intercalate_cons_cons]

/-- The filter of some criteria: ORs between the conjunctions, ANDs between the predicates of each.
-/
theorem flattenAll_restrictions : ∀ criteria : List Criterion,
    flattenAll true (criteria.map Criterion.restriction) =
      [.word "OR"].intercalate ((alternatives criteria).map fun run =>
        [.word "AND"].intercalate (run.map Criterion.predicate))
  | [] => rfl
  | [c] => by simp [alternatives, flattenAll, flatten, introduction, Criterion.restriction,
      Criterion.predicate]
  | c :: d :: rest => by
    have ih := flattenAll_restrictions (d :: rest)
    obtain ⟨run, runs, hruns⟩ := alternatives_cons d rest
    have hflat : flattenAll true ((c :: d :: rest).map Criterion.restriction) =
        c.predicate ++
          .word d.connective.keyword :: flattenAll true ((d :: rest).map Criterion.restriction) :=
      rfl
    rw [hflat, ih, alternatives_cons_cons c d rest hruns, hruns]
    cases hor : d.connective.alternative with
    | true =>
      simp [Connective.keyword, hor, List.intercalate_cons_cons]
    | false =>
      simp [Connective.keyword, hor, List.intercalate_cons_cons, intercalate_append_cons]

/-- What holds in the separator and in the parts holds in the whole sequence. -/
theorem forall_mem_intercalate {γ : Type u} {P : γ → Prop} {separator : List γ}
    (hseparator : ∀ x ∈ separator, P x) :
    ∀ {parts : List (List γ)}, (∀ part ∈ parts, ∀ x ∈ part, P x) →
    ∀ x ∈ separator.intercalate parts, P x
  | [], _ => by simp
  | [part], h => by simpa using h
  | part :: next :: rest, h => by
    rw [List.forall_mem_cons] at h
    have ih := forall_mem_intercalate hseparator h.2
    rw [List.intercalate_cons_cons, List.append_assoc, List.forall_mem_append,
      List.forall_mem_append]
    exact ⟨h.1, hseparator, ih⟩

/-- The only word of a predicate is its NOT. -/
theorem Criterion.isWord_predicate {text : String} (htext : "NOT" ≠ text) (c : Criterion) :
    ∀ f ∈ c.predicate, f.isWord text = false := by
  have hfragment : c.condition.fragment.isWord text = false := rfl
  have hnot : (Fragment.word "NOT").isWord text = false := by simp [Fragment.isWord, htext]
  unfold predicate
  split <;> simp [hnot, hfragment]

/-- Cut at its ORs, the filter of some criteria falls into their conjunctions. -/
theorem splitOnP_flattenAll {criteria : List Criterion} (hne : criteria ≠ []) :
    (flattenAll true (criteria.map Criterion.restriction)).splitOnP (Fragment.isWord "OR") =
      (alternatives criteria).map fun run =>
        [.word "AND"].intercalate (run.map Criterion.predicate) := by
  have hwordless : ∀ part ∈ (alternatives criteria).map fun run =>
      [.word "AND"].intercalate (run.map Criterion.predicate),
      ∀ f ∈ part, f.isWord "OR" = false :=
    List.forall_mem_map.2 fun run _ => forall_mem_intercalate (by simp [Fragment.isWord])
      (List.forall_mem_map.2 fun c _ => c.isWord_predicate (by decide))
  have hparts : (alternatives criteria).map (fun run =>
      [.word "AND"].intercalate (run.map Criterion.predicate)) ≠ [] := by
    rw [alternatives_eq_conjunctions]
    simpa [conjunctions] using hne
  have hor : Fragment.isWord "OR" (.word "OR") = true := rfl
  rw [flattenAll_restrictions]
  exact splitOnP_intercalate hor hparts hwordless

section Truth
variable {α : Type u} [LinearOrder α] {order : Value → α} {row : Row α}

theorem sqlFactor_predicate {c : Criterion} (h : c.condition.Answered row) :
    sqlFactor order row c.predicate = some (.ofBool (c.holds order row)) := by
  cases hnegated : c.connective.negated <;>
    simp [Criterion.predicate, Criterion.holds, hnegated, sqlFactor, sqlPredicate_fragment h]

/-- Predicates with ANDs between them are true if all their criteria hold. -/
theorem sqlConjunction_predicates {run : List Criterion} (hne : run ≠ [])
    (h : ∀ c ∈ run, c.condition.Answered row) :
    sqlConjunction order row ([.word "AND"].intercalate (run.map Criterion.predicate)) =
      some (.ofBool (run.all (Criterion.holds order row))) := by
  have hwordless : ∀ part ∈ run.map Criterion.predicate, ∀ f ∈ part, f.isWord "AND" = false :=
    List.forall_mem_map.2 fun c _ => c.isWord_predicate (by decide)
  have hand : Fragment.isWord "AND" (.word "AND") = true := rfl
  have hsplit := splitOnP_intercalate hand (by simpa using hne) hwordless
  have hread : (run.map Criterion.predicate).mapM (sqlFactor order row) =
      some (run.map fun c => .ofBool (c.holds order row)) :=
    mapM_map_eq_some fun c hc => sqlFactor_predicate (h c hc)
  rw [sqlConjunction, hsplit, hread, Option.map_some, Truth.all_map_ofBool]

/-- The filter of some criteria is true in a row if the row satisfies them, and else false. -/
theorem sqlTruth_flattenAll {criteria : List Criterion}
    (h : ∀ c ∈ criteria, c.condition.Answered row) :
    sqlTruth order row (flattenAll true (criteria.map Criterion.restriction)) =
      some (.ofBool (satisfies order row criteria)) := by
  cases hempty : criteria.isEmpty with
  | true =>
    rw [List.isEmpty_iff.1 hempty]
    rfl
  | false =>
    have hne : criteria ≠ [] := by simpa using hempty
    have hfilter : (flattenAll true (criteria.map Criterion.restriction)).isEmpty = false := by
      cases criteria with
      | nil => exact absurd rfl hne
      | cons c rest => simp [flattenAll, flatten_ne_nil]
    have hruns : ∀ run ∈ alternatives criteria,
        sqlConjunction order row ([.word "AND"].intercalate (run.map Criterion.predicate)) =
          some (.ofBool (run.all (Criterion.holds order row))) := fun run hrun =>
      sqlConjunction_predicates (ne_nil_of_mem_alternatives _ _ hrun) fun c hc =>
        h c (mem_of_mem_alternatives hrun hc)
    rw [sqlTruth, hfilter, splitOnP_flattenAll hne, mapM_map_eq_some hruns]
    simp only [Bool.false_eq_true, if_false, Option.map_some, Truth.any_map_ofBool, satisfies,
      hempty, Bool.false_or, alternatives_eq_conjunctions]

end Truth

/-! ### Commands -/

/-- The predicate of a condition has no operand of LIKE. -/
theorem patternless_fragment {α : Type u} {row : Row α} {c : Condition} (h : c.Answered row) :
    c.fragment.patternless = true := by
  cases h with
  | isNull | isNotNull | within => rfl
  | @compare _ _ _ comparison hcomparison =>
    cases comparison <;> first | rfl | exact absurd hcomparison (by decide)
  | oneOf =>
    simp [Condition.fragment, Fragment.blankSeparated, Test.operands, Fragment.patternless,
      Fragment.allPatternless_eq_all]

theorem allPatternless_flattenAll {α : Type u} {row : Row α} (first : Bool) :
    ∀ {criteria : List Criterion}, (∀ c ∈ criteria, c.condition.Answered row) →
    Fragment.allPatternless (flattenAll first (criteria.map Criterion.restriction)) = true
  | [], _ => rfl
  | c :: rest, h => by
    rw [List.forall_mem_cons] at h
    have ih := allPatternless_flattenAll false h.2
    have hintroduction : Fragment.allPatternless (introduction first c.connective) = true := by
      unfold introduction
      split <;> split <;> rfl
    have hfragment := patternless_fragment h.1
    rw [Fragment.allPatternless_eq_all] at ih hintroduction ⊢
    simp [flattenAll, flatten, Criterion.restriction, ih, hintroduction, hfragment]

namespace SqlCommand

/-- No condition and no key has come yet. -/
def Unrestricted (b : SqlCommand) : Prop := b.filterState = {}

theorem filterText_args (s : Style) (b : SqlCommand) :
    (b.filterText s).args = (Fragment.writeAll s b.filter).flatMap Statement.args := by
  unfold filterText
  split
  · rename_i hempty
    rw [List.isEmpty_iff.1 hempty]
    rfl
  · simp [Fragment.blankSeparated, Fragment.write, Statement.join]

/-- A criterion comes to the end of the filter if a command takes it. -/
theorem filterState_restrict {b : SqlCommand} {members : List Restriction}
    (hb : b.filterState = .level [] false members) (c : Criterion) :
    (b.restrict c.connective c.condition).2.filterState =
      .level [] false (members ++ (taken [c]).map Criterion.restriction) := by
  have hstage : b.stage = .filtering := (FilterState.mk.inj hb).2.2.1
  cases hfault : c.condition.fault? with
  | some fault =>
    have hrefused : b.restrict c.connective c.condition = (.error (.invalid fault), b) := by
      simp [restrict, hstage, Stage.admitsCondition, Condition.check, hfault]
    simp [hrefused, taken, hfault, hb]
  | none =>
    have htaken : b.restrict c.connective c.condition =
        (.ok (), b.append c.connective c.condition.fragment) := by
      simp [restrict, hstage, Stage.admitsCondition, Condition.check, hfault]
    have hc : (taken [c]).map Criterion.restriction = [c.restriction] := by simp [taken, hfault]
    rw [htaken, hc]
    exact filterState_append rfl hb c.connective c.condition.fragment rfl

theorem filterState_restrictAll : ∀ (criteria : List Criterion) {b : SqlCommand}
    {members : List Restriction}, b.filterState = .level [] false members →
    (Builder.restrictAll b criteria).filterState =
      .level [] false (members ++ (taken criteria).map Criterion.restriction)
  | [], b, members, hb => by simp [Builder.restrictAll, taken, hb]
  | c :: rest, b, members, hb => by
    have ih := filterState_restrictAll rest (filterState_restrict hb c)
    have hhead : Builder.restrictAll b (c :: rest) =
        Builder.restrictAll (b.restrict c.connective c.condition).2 rest := rfl
    rw [hhead, ih, taken_cons c rest, List.map_append, List.append_assoc]

/-- The filter of a command that was asked to take some criteria, with the arguments in its
placeholders, is true in a row exactly if the row satisfies those that were taken. -/
theorem sqlTruth_restrictAll {α : Type u} [LinearOrder α] {order : Value → α} {row : Row α}
    {b : SqlCommand} (hb : b.Unrestricted) {criteria : List Criterion}
    (h : ∀ c ∈ taken criteria, c.condition.Answered row) (s : Style) :
    let after := Builder.restrictAll b criteria
    sqlTruth order row (Fragment.resolveAll after.filter (after.filterText s).args).1 =
      some (.ofBool (satisfies order row (taken criteria))) := by
  intro after
  have hempty : b.filterState = .level [] false [] := hb
  have hafter : after.filterState = .level [] false ((taken criteria).map Criterion.restriction) :=
    filterState_restrictAll criteria hempty
  have hfilter : after.filter = flattenAll true ((taken criteria).map Criterion.restriction) :=
    (FilterState.mk.inj hafter).1
  have hpatternless : Fragment.allPatternless after.filter = true :=
    hfilter ▸ allPatternless_flattenAll true h
  rw [filterText_args, Fragment.resolveAll_own s hpatternless, hfilter]
  exact sqlTruth_flattenAll h

end SqlCommand

end DataCommand
