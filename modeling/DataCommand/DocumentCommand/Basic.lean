import DataCommand.Builder.Basic
import DataCommand.DocumentCommand.Filter

/-!
Document commands under construction. Conditions are kept as they came and become one filter
expression when the command is rendered. Groups, conditions in other words than its own, projected
expressions and grouping have no counterpart and are refused.
-/

namespace DataCommand

/-- A projected column and the field it is written as. -/
structure ProjectedField where
  column : String
  field : String

/-- A sort key. -/
structure SortKey where
  field : String
  order : SortOrder
  nulls : NullsPlace

/-- A document command under construction. -/
structure DocumentCommand where
  target : Target := {}
  projections : List ProjectedField := []
  allFields : Bool := false
  criteria : List Criterion := []
  stage : Stage := .filtering
  sorts : List SortKey := []
  assignments : List Assignment := []
  row : List Assignment := []
  args : Arguments := []

namespace DocumentCommand

def projects (b : DocumentCommand) (column : String) : Bool :=
  b.projections.any fun p => p.column == column

def selectsAll (b : DocumentCommand) : Bool := b.allFields || b.projections.isEmpty

/-- Takes a condition. -/
def restrict (connective : Connective) (condition : Condition) (b : DocumentCommand) :
    Outcome DocumentCommand :=
  match condition.check with
  | .error e => (.error e, b)
  | .ok () => match b.stage.admitsCondition with
    | .error e => (.error e, b)
    | .ok () => (.ok (), { b with criteria := b.criteria ++ [⟨connective, condition⟩] })

/-- Takes a column to project, unless it is projected already. -/
def project (column : String) (term : Option String) (b : DocumentCommand) : DocumentCommand :=
  { b with
    allFields := false
    projections :=
      if b.projects column then b.projections
      else b.projections ++ [⟨column, (Text.unlessBlank term).getD column⟩] }

/-- The answer to a construct without a counterpart in the family called `label`. -/
def refuse (label construct : String) (b : DocumentCommand) : Outcome DocumentCommand :=
  (.error (.unsupported label construct), b)

/-- The answer to a construction call, in the name of the family called `label`. -/
def call (label : String) : Call → DocumentCommand → Outcome DocumentCommand
  | .setTarget target, b => (.ok (), { b with target })
  | .condition connective c, b => b.restrict connective c
  | .verbatim _ _ _, b => b.refuse label "raw condition fragments"
  | .project column term, b => (.ok (), b.project column term)
  | .projectText _ _, b => b.refuse label "custom projections"
  | .projectAll, b => (.ok (), { b with projections := [], allFields := true })
  | .clearProjections, b => (.ok (), { b with projections := [], allFields := false })
  | .groupBy _ _, b => b.refuse label "grouping"
  | .sortBy column term order nulls, b =>
    (.ok (), { b with
      stage := .ordering
      sorts := b.sorts ++ [⟨(Text.unlessBlank term).getD column, order, nulls⟩] })
  | .assign column value term, b =>
    (.ok (), { b with assignments := Assignment.push column value term b.assignments })
  | .clearAssignments, b => (.ok (), { b with assignments := [] })
  | .supply column value term, b =>
    match Assignment.pushNew column value term b.row with
    | .error e => (.error e, b)
    | .ok row => (.ok (), { b with row })
  | .clearArgs, b => (.ok (), { b with args := [] })
  | .clear, _ => (.ok (), {})

/-- The answer to the opening of a group. -/
def refuseGroup (label : String) : CommandError := .unsupported label "nested condition groups"

end DocumentCommand

end DataCommand
