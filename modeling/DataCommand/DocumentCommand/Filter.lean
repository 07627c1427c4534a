import DataCommand.Dialect.Basic
import DataCommand.Document

/-!
Filter expressions of document stores. Conditions between two ORs are entries of one object, several
such runs are joined by `$or`, and a negated condition is wrapped in `$nor`.
-/

namespace DataCommand

/-- A condition with the connective in front of it. -/
structure Criterion where
  connective : Connective
  condition : Condition

/-- The criteria cut in front of every OR but that of the first one: what is joined by AND stays
together. -/
def alternatives : List Criterion → List (List Criterion)
  | [] => []
  | [c] => [[c]]
  | c :: d :: rest =>
    match alternatives (d :: rest) with
    | [] => [[c]]
    | run :: runs => if d.connective.alternative then [c] :: run :: runs else (c :: run) :: runs

/-- The field that a condition is about: the expression over its column, if it has one. -/
def Condition.field (c : Condition) : String := (Text.unlessBlank c.term).getD c.column

/-- A hole for a value behind an expression that may be blank. -/
def Document.bindOver (v : Value) (term : Option String) : Document Value :=
  .bind v (Text.unlessBlank term)

namespace Condition

/-- The entry of a comparison. -/
def comparisonEntry (d : Dialect) (field : String) (comparison : Comparison) (operand : Value)
    (term : Option String) (wildcards : Wildcards) : String × Document Value :=
  let plain := Document.bindOver operand term
  let pattern := Document.bindOver (d.patternValue wildcards operand) term
  match comparison with
  | .eq => (field, plain)
  | .ne => (field, .entry "$ne" plain)
  | .gt => (field, .entry "$gt" plain)
  | .ge => (field, .entry "$gte" plain)
  | .lt => (field, .entry "$lt" plain)
  | .le => (field, .entry "$lte" plain)
  | .like => (field, .entry "$regex" pattern)
  | .notLike => (field, .entry "$not" (.entry "$regex" pattern))
  | .isNull => (field, .null)
  | .isNotNull | .inList | .notInList | .between | .notBetween => (field, .entry "$ne" .null)

/-- The entry of a condition. -/
def entry (d : Dialect) (c : Condition) : String × Document Value :=
  match c.test with
  | .compare comparison operand term wildcards =>
    comparisonEntry d c.field comparison (operand.getD .null) term wildcards
  | .within negated low high lowTerm highTerm =>
    let low := Document.bindOver low lowTerm
    let high := Document.bindOver high highTerm
    if negated then
      ("$or", .array [.entry c.field (.entry "$lt" low), .entry c.field (.entry "$gt" high)])
    else (c.field, .object [("$gte", low), ("$lte", high)])
  | .oneOf negated values term =>
    (c.field,
      .entry (if negated then "$nin" else "$in") (.array (values.map fun v => .bindOver v term)))

end Condition

/-- The entry of a condition, negated if its connective says so. -/
def Criterion.entry (d : Dialect) (c : Criterion) : String × Document Value :=
  let e := c.condition.entry d
  if c.connective.negated then ("$nor", .array [.entry e.1 e.2]) else e

namespace Document
variable {β : Type}

/-- No key occurs twice. -/
def distinctKeys : List (String × Document β) → Bool
  | [] => true
  | (key, _) :: rest => rest.all (fun e => e.1 != key) && distinctKeys rest

/-- All entries at once: side by side in one object, or under `$and` if a key repeats. -/
def together (entries : List (String × Document β)) : Document β :=
  if distinctKeys entries then .object entries
  else .entry "$and" (.array (entries.map fun e => .entry e.1 e.2))

end Document

/-- The filter expression of some criteria. -/
def filterOf (d : Dialect) (criteria : List Criterion) : Document Value :=
  match (alternatives criteria).map fun run => Document.together (run.map (Criterion.entry d)) with
  | [] => .object []
  | [run] => run
  | several => .entry "$or" (.array several)

end DataCommand
