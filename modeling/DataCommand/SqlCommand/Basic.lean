import DataCommand.Builder.Basic
import DataCommand.Fragment

/-!
Relational commands under construction. WHERE, GROUP BY and ORDER BY share one flat list of
fragments: a group of conditions is a pair of parentheses in it, and the lists of grouping and sort
keys are put behind their keywords when the first key comes. Later keys go to the remembered place
of their list.
-/

namespace DataCommand

/-- A relational command under construction. -/
structure SqlCommand where
  target : Target := {}
  projections : List Fragment := []
  /-- The expressions of the projected columns, the latest one first. -/
  terms : List (String × Option String) := []
  allFields : Bool := false
  /-- Conditions, grouping keys and sort keys with their keywords. -/
  filter : List Fragment := []
  hasConditions : Bool := false
  stage : Stage := .filtering
  /-- The place of the list of grouping keys in the filter. -/
  groupPlace : Option Nat := none
  /-- The place of the list of sort keys in the filter. -/
  sortPlace : Option Nat := none
  assignments : List Assignment := []
  row : List Assignment := []
  args : Arguments := []

namespace Test

/-- The fragments of a test behind its operator. -/
def operands : Test → List Fragment
  | .compare comparison operand term wildcards =>
    let v := operand.getD .null
    if comparison.testsNull then []
    else if comparison.takesPattern then [.pattern v wildcards (Text.unlessBlank term)]
    else [.bound v (Text.unlessBlank term)]
  | .within _ low high lowTerm highTerm =>
    [.bound low (Text.unlessBlank lowTerm), .word "AND", .bound high (Text.unlessBlank highTerm)]
  | .oneOf _ values term =>
    [.openParen, .joined " , " (values.map fun v => .bound v (Text.unlessBlank term)), .closeParen]

end Test

/-- A condition as one fragment. -/
def Condition.fragment (c : Condition) : Fragment :=
  .blankSeparated
    ([.column c.column (Text.unlessBlank c.term), .word c.test.comparison.symbol] ++
      c.test.operands)

namespace SqlCommand

/-- The connective in front of the next element, none at the start of the filter or of a group, and
its negation. -/
def lead (filter : List Fragment) (connective : Connective) : List Fragment :=
  (if filter.isEmpty || Fragment.endsOpen filter then [] else [.word connective.keyword]) ++
    if connective.negated then [.word "NOT"] else []

/-- One more condition at the end of the filter. -/
def append (connective : Connective) (element : Fragment) (b : SqlCommand) : SqlCommand :=
  { b with
    filter := b.filter ++ lead b.filter connective ++ [element]
    hasConditions := true }

/-- Takes a condition. -/
def restrict (connective : Connective) (c : Condition) (b : SqlCommand) : Outcome SqlCommand :=
  match b.stage.admitsCondition with
  | .error e => (.error e, b)
  | .ok () => match c.check with
    | .error e => (.error e, b)
    | .ok () => (.ok (), b.append connective c.fragment)

/-- Takes a condition in the words of the caller. -/
def restrictVerbatim (connective : Connective) (text : String) (args : List Value)
    (b : SqlCommand) : Outcome SqlCommand :=
  match b.stage.admitsCondition with
  | .error e => (.error e, b)
  | .ok () =>
    if Text.isBlank text then (.error (.invalid .blankText), b)
    else (.ok (), b.append connective (.verbatim text args))

/-- Puts the opening parenthesis of a group behind its connective. -/
def openGroup (connective : Connective) (b : SqlCommand) :
    Except CommandError (GroupMark × SqlCommand) :=
  match b.stage.admitsCondition with
  | .error e => .error e
  | .ok () =>
    .ok (⟨b.filter.length, b.hasConditions⟩,
      { b with filter := b.filter ++ lead b.filter connective ++ [.openParen] })

/-- Closes a group. One that failed, or that left the place for its first condition open, leaves
nothing in the filter; after grouping or ordering has begun a group fails. -/
def closeGroup (mark : GroupMark) (verdict : Except CommandError Unit) (b : SqlCommand) :
    Outcome SqlCommand :=
  let undone := { b with filter := b.filter.take mark.length, hasConditions := mark.hadConditions }
  match verdict with
  | .error e => (.error e, undone)
  | .ok () => match b.stage.admitsCondition with
    | .error e => (.error e, undone)
    | .ok () =>
      if Fragment.endsOpen b.filter then (.ok (), undone)
      else (.ok (), { b with filter := b.filter ++ [.closeParen] })

/-- The filter with a list of keys in it, and the place of the list: where it is remembered to be,
or else behind its keyword at the end. -/
def withList (keyword : String) (place : Option Nat) (filter : List Fragment) :
    List Fragment × Nat :=
  match place with
  | some i => (filter, i)
  | none => (filter ++ [.word keyword, .commaSeparated []], filter.length + 1)

/-- Puts a key at the end of the list in its place. The place is gone if a group has taken the list
away with it. -/
def pushKey (place : Nat) (key : Fragment) (b : SqlCommand) : Outcome SqlCommand :=
  match Fragment.pushAt key place b.filter with
  | some filter => (.ok (), { b with filter })
  | none => (.error (.invalid .displaced), b)

/-- Takes a grouping key. -/
def groupBy (column : String) (term : Option String) (b : SqlCommand) : Outcome SqlCommand :=
  match b.stage.admitsGrouping with
  | .error e => (.error e, b)
  | .ok () =>
    let list := withList "GROUP BY" b.groupPlace b.filter
    pushKey list.2 (.groupKey column (Text.unlessBlank term))
      { b with filter := list.1, groupPlace := some list.2, stage := .grouping }

/-- Takes a sort key. -/
def sortBy (column : String) (term : Option String) (order : SortOrder) (nulls : NullsPlace)
    (b : SqlCommand) : Outcome SqlCommand :=
  let list := withList "ORDER BY" b.sortPlace b.filter
  pushKey list.2 (.sortKey column (Text.unlessBlank term) order nulls)
    { b with filter := list.1, sortPlace := some list.2, stage := .ordering }

def projects (b : SqlCommand) (column : String) : Bool := (b.terms.lookup column).isSome

def selectsAll (b : SqlCommand) : Bool := b.allFields || b.projections.isEmpty

/-- The answer to a construction call. -/
def call : Call → SqlCommand → Outcome SqlCommand
  | .setTarget target, b => (.ok (), { b with target })
  | .condition connective c, b => b.restrict connective c
  | .verbatim connective text args, b => b.restrictVerbatim connective text args
  | .project column term, b =>
    (.ok (), { b with
      allFields := false
      projections := b.projections ++ [.projection column (Text.unlessBlank term)]
      terms := (column, Text.unlessBlank term) :: b.terms })
  | .projectText text args, b =>
    (.ok (), { b with allFields := false, projections := b.projections ++ [.verbatim text args] })
  | .projectAll, b => (.ok (), { b with projections := [], terms := [], allFields := true })
  | .clearProjections, b => (.ok (), { b with projections := [], terms := [], allFields := false })
  | .groupBy column term, b => b.groupBy column term
  | .sortBy column term order nulls, b => b.sortBy column term order nulls
  | .assign column value term, b =>
    (.ok (), { b with assignments := Assignment.push column value term b.assignments })
  | .clearAssignments, b => (.ok (), { b with assignments := [] })
  | .supply column value term, b =>
    match Assignment.pushNew column value term b.row with
    | .error e => (.error e, b)
    | .ok row => (.ok (), { b with row })
  | .clearArgs, b => (.ok (), { b with args := [] })
  | .clear, _ => (.ok (), {})

end SqlCommand

end DataCommand
