import DataCommand.DocumentCommand.Filter

/-!
Queries of a search server. Conditions between two ORs must all hold, several such runs are
alternatives, and negation wraps a query in `must_not`.
-/

namespace DataCommand

namespace Document
variable {β : Type}

/-- Whatever the query does not match. -/
def mustNot (query : Document β) : Document β :=
  .entry "bool" (.entry "must_not" (.array [query]))

/-- The query, negated if asked for. -/
def mustNotIf (negated : Bool) (query : Document β) : Document β :=
  if negated then mustNot query else query

/-- A query of one field. -/
def onField (query field : String) (value : Document β) : Document β :=
  .entry query (.entry field value)

/-- Values between bounds. -/
def range (field : String) (bounds : List (String × Document β)) : Document β :=
  onField "range" field (.object bounds)

/-- The field has a value. -/
def fieldExists (field : String) : Document β := .entry "exists" (.entry "field" (.str field))

end Document

namespace Condition

/-- The query of a comparison. -/
def comparisonQuery (d : Dialect) (field : String) (comparison : Comparison) (operand : Value)
    (term : Option String) (wildcards : Wildcards) : Document Value :=
  let plain := Document.bindOver operand term
  let pattern := Document.bindOver (d.patternValue wildcards operand) term
  match comparison with
  | .eq => .onField "match" field plain
  | .ne => .mustNot (.onField "term" field plain)
  | .gt => .range field [("gt", plain)]
  | .ge => .range field [("gte", plain)]
  | .lt => .range field [("lt", plain)]
  | .le => .range field [("lte", plain)]
  | .like => .onField "wildcard" field pattern
  | .notLike => .mustNot (.onField "wildcard" field pattern)
  | .isNull => .mustNot (.fieldExists field)
  | .isNotNull | .inList | .notInList | .between | .notBetween => .fieldExists field

/-- The query of a condition. -/
def query (d : Dialect) (c : Condition) : Document Value :=
  match c.test with
  | .compare comparison operand term wildcards =>
    comparisonQuery d c.field comparison (operand.getD .null) term wildcards
  | .within negated low high lowTerm highTerm =>
    .mustNotIf negated
      (.range c.field
        [("gte", .bindOver low lowTerm), ("lte", .bindOver high highTerm)])
  | .oneOf negated values term =>
    .mustNotIf negated
      (.onField "terms" c.field (.array (values.map fun v => .bindOver v term)))

end Condition

/-- The query of a criterion. -/
def Criterion.query (d : Dialect) (c : Criterion) : Document Value :=
  .mustNotIf c.connective.negated (c.condition.query d)

/-- The query for all of several criteria. -/
def queryOfAll (d : Dialect) (run : List Criterion) : Document Value :=
  .entry "bool" (.entry "must" (.array (run.map (Criterion.query d))))

/-- The query of some criteria. -/
def queryOf (d : Dialect) (criteria : List Criterion) : Document Value :=
  match (alternatives criteria).map (queryOfAll d) with
  | [] => .entry "match_all" (.object [])
  | [run] => run
  | several =>
    .entry "bool" (.object [("should", .array several), ("minimum_should_match", .int 1)])

end DataCommand
