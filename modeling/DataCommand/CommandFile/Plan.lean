import DataCommand.Builder.Script
import DataCommand.CommandFile.Reference

/-!
The command that a file stands for. Whatever a file can get wrong is found here: a plan consists of
calls with all they need, one for each entry of the file in its order.
-/

namespace DataCommand

/-- A command that is ready to be rendered. -/
structure Plan where
  backend : Option Backend
  quote : Bool
  target : Target
  clauses : List Step
  request : Request
  window : Option RowWindow
  count : Bool

/-- The call of an entry of `select`: it has a column or an expression, not both. -/
def ProjectionEntry.step (entry : ProjectionEntry) : Except FileFault Step :=
  match entry.column, entry.expr with
  | some column, none => .ok (.call (.project column entry.term))
  | none, some expr => .ok (.call (.projectText expr entry.args))
  | _, _ => .error .ambiguousProjection

namespace FilterFields

/-- The test of an entry, with the operands that it needs. -/
def test (f : FilterFields) (comparison : Comparison) : Except FileFault Test :=
  if comparison.takesList then
    if f.values.isEmpty then .error (.noList comparison)
    else .ok (.oneOf (comparison = .notInList) f.values f.valueTerm)
  else if comparison.takesRange then
    match f.low, f.high with
    | some low, some high =>
      .ok (.within (comparison = .notBetween) low high f.valueTerm f.valueTerm)
    | _, _ => .error (.noBounds comparison)
  else
    let operand := if comparison.testsNull then none else some (f.value.getD .null)
    let wildcards := if comparison.takesPattern then f.wildcards else .both
    .ok (.compare comparison operand f.valueTerm wildcards)

/-- The call of an entry that tests a column. -/
def testStep (f : FilterFields) (comparison : Comparison) : Except FileFault Step :=
  match Text.unlessBlank f.column with
  | none => .error (.noColumn comparison)
  | some column =>
    (f.test comparison).map fun test =>
      .call (.condition f.connective { column, term := f.columnTerm, test })

end FilterFields

namespace FilterEntry

mutual

/-- The step of an entry of `where`. -/
def step : FilterEntry → Except FileFault Step
  | .mk f entries =>
    match f.kind with
    | .test comparison => f.testStep comparison
    | .raw => match f.text with
      | none => .error .noText
      | some text => .ok (.call (.verbatim f.connective text f.args))
    | .group => match steps entries with
      | .error e => .error e
      | .ok body => .ok (.group f.connective body false (.ok ()))

/-- The steps of several entries; the first one at fault counts. -/
def steps : List FilterEntry → Except FileFault (List Step)
  | [] => .ok []
  | entry :: rest =>
    match step entry with
    | .error e => .error e
    | .ok s => match steps rest with
      | .error e => .error e
      | .ok tail => .ok (s :: tail)

end

end FilterEntry

/-- The first text that occurs a second time, among those `seen` and the ones that follow. -/
def firstRepeated (seen : List String) : List String → Option String
  | [] => none
  | s :: rest => if seen.contains s then some s else firstRepeated (s :: seen) rest

namespace CommandFile

/-- A target names a table or a catalog. -/
def checkTarget (file : CommandFile) : Except FileFault Unit :=
  if (Text.unlessBlank (some file.target.table)).isNone &&
      (Text.unlessBlank file.target.catalog).isNone then
    .error .noTarget
  else .ok ()

/-- The request of the operation: an insert has columns, none twice, and an update assignments. -/
def request (file : CommandFile) : Except FileFault Request :=
  match file.operation with
  | .select => .ok .select
  | .delete => .ok (.delete file.allowUnfiltered)
  | .update =>
    if file.assignments.isEmpty then .error .noAssignments
    else .ok (.update file.allowUnfiltered)
  | .insert =>
    if file.row.isEmpty then .error .noValues
    else match firstRepeated [] (file.row.map Assignment.column) with
      | some column => .error (.repeatedColumn column)
      | none => .ok (.insert file.primaryKey file.onConflict)

/-- Only the rows of a query can be counted or cut to a window, which is never empty. -/
def checkWindow (file : CommandFile) : Except FileFault Unit :=
  if file.operation ≠ .select ∧ (file.count ∨ file.window.isSome) then .error .windowOnMutation
  else match file.window with
    | some window => if window.limit = 0 then .error .emptyWindow else .ok ()
    | none => .ok ()

/-- The calls behind those for conditions. -/
def trailing (file : CommandFile) : List Step :=
  (file.groupBy.map fun g => .call (.groupBy g.column g.term)) ++
    (file.sortBy.map fun o => .call (.sortBy o.column o.term o.order o.nulls)) ++
    (file.assignments.map fun a => .call (.assign a.column a.value a.term)) ++
    file.row.map fun a => .call (.supply a.column a.value a.term)

/-- The plan of a file whose references are replaced. -/
def plan (file : CommandFile) : Except FileFault Plan := do
  file.checkTarget
  let projections ← file.projections.mapM ProjectionEntry.step
  let filter ← FilterEntry.steps file.filter
  let request ← file.request
  file.checkWindow
  return {
    backend := file.backend
    quote := file.quote
    target := file.target
    clauses := projections ++ filter ++ file.trailing
    request
    window := file.window
    count := file.count }

/-- The file with the references in its target replaced. -/
def expand (env : Environment) (file : CommandFile) : Except FileFault CommandFile := do
  return { file with target := ← file.target.expand env }

end CommandFile

end DataCommand
