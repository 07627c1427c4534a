import DataCommand.Proofs.Mask.Document
import DataCommand.Proofs.Mask.Run
import DataCommand.Proofs.Rendering

/-!
Document and search commands behind a mask. Both write the nulls of a row out, so of a value without
an expression it is visible whether it is a null, and nothing else.
-/

namespace DataCommand

namespace DocumentCommand

/-- The command with its values masked. -/
def masked (b : DocumentCommand) : DocumentCommand :=
  { b with
    criteria := b.criteria.map Criterion.masked
    assignments := b.assignments.map (Assignment.masked true)
    row := b.row.map (Assignment.masked true)
    args := nulls b.args }

/-- A call does the same behind the mask. -/
theorem call_masked (label : String) (c : Call) (b : DocumentCommand) :
    call label (c.masked true) b.masked = ((call label c b).1, (call label c b).2.masked) := by
  cases c with
  | condition k c =>
    show b.masked.restrict k c.masked = ((b.restrict k c).1, (b.restrict k c).2.masked)
    have hstage : b.masked.stage = b.stage := rfl
    unfold restrict
    rw [c.check_masked, hstage]
    cases c.check with
    | error e => rfl
    | ok =>
      cases b.stage.admitsCondition with
      | error e => rfl
      | ok => simp [masked, Criterion.masked]
  | assign column value term =>
    have h : Assignment.push column (value.masked (Text.unlessBlank term)) term
        b.masked.assignments = _ := Assignment.push_masked true column value term b.assignments
    simp only [call, Call.masked, h]
    rfl
  | supply column value term =>
    have h : Assignment.pushNew column (value.masked (Text.unlessBlank term)) term
        b.masked.row = _ :=
      Assignment.pushNew_masked true column value term b.row
    simp only [call, Call.masked, if_true, h]
    cases Assignment.pushNew column value term b.row <;> rfl
  | _ => rfl

theorem permit_masked (request : Request) (b : DocumentCommand) :
    b.masked.permit request = b.permit request := by simp [permit, masked]

/-- Documents of the same shape are written alike behind the mask. -/
theorem shellStatement_masked {d e : Document Value} (h : d.bare = e.bare) :
    d.shellStatement.masked = e.shellStatement.masked := by
  simpa [Document.inSpelling, Document.shellStatement, Document.shell_eq_spelled] using
    Document.masked_inSpelling Document.inShell h

theorem methodCall_masked (d : Dialect) (quote : Bool) (b : DocumentCommand) (method : String)
    {x y : Statement} (h : x.masked = y.masked) :
    (b.masked.methodCall d quote method x).masked = (b.methodCall d quote method y).masked := by
  simp only [methodCall, Statement.masked_append, h]
  rfl

/-- Values leave no trace in the text of a command. -/
theorem part_masked (request : Request) (d : Dialect) (quote : Bool) (b : DocumentCommand) :
    (b.masked.part request d quote).masked = (b.part request d quote).masked := by
  have hfilter : (b.masked.filter d).masked = (b.filter d).masked :=
    shellStatement_masked (bare_filterOf_masked d b.criteria)
  cases request with
  | select =>
    have hfields : ∀ fields : Statement,
        (b.masked.filter d ++ fields).masked = (b.filter d ++ fields).masked := by
      intro fields
      rw [Statement.masked_append, Statement.masked_append, hfilter]
    have hcall := fun fields => methodCall_masked d quote b "find" (hfields fields)
    simp only [part, selectText, Statement.masked_append]
    exact congrArg (· ++ _) (hcall _)
  | update allow =>
    refine methodCall_masked d quote b "updateMany" ?_
    have hset : (Assignment.object b.masked.assignments).bare =
        (Assignment.object b.assignments).bare := Assignment.bare_object_masked b.assignments
    have h := shellStatement_masked (d := .entry "$set" (Assignment.object b.masked.assignments))
      (e := .entry "$set" (Assignment.object b.assignments)) (by simp [hset])
    simp only [Statement.masked_append, hfilter, h]
  | delete allow => exact methodCall_masked d quote b "deleteMany" hfilter
  | insert primaryKey asked =>
    have hrow : (Assignment.object b.masked.row).bare = (Assignment.object b.row).bare :=
      Assignment.bare_object_masked b.row
    have h := shellStatement_masked (d := .array [Assignment.object b.masked.row])
      (e := .array [Assignment.object b.row]) (by simp [hrow])
    exact methodCall_masked d quote b "insertMany" h

/-- A mask over document commands. -/
def masking : Masking DocumentCommand where
  rows := true
  hide := masked
  call := call_masked "document store"
  openGroup _ _ := rfl
  closeGroup _ _ _ := rfl
  answer q b := by
    cases q with
    | args => simp [Query.answer, Builder.args, Reply.masked, masked]
    | _ => rfl
  result request d quote b := by
    show (b.masked.render request d quote).result.map _ = (b.render request d quote).result.map _
    have hpart := part_masked request d quote b
    rw [render_result, render_result, permit_masked]
    cases b.permit request with
    | error e => rfl
    | ok => simp [Except.map, hpart, show b.masked.args = nulls b.args from rfl]
  withArgs args b := { b with args }
  hide_withArgs _ _ := rfl
  after := after_render

end DocumentCommand

namespace SearchCommand

/-- The command with its values masked. -/
def masked (b : SearchCommand) : SearchCommand := { b with content := b.content.masked }

/-- A body has the same shape behind the mask. -/
theorem bare_body_masked (d : Dialect) (b : DocumentCommand) (request : Request) :
    (body d b.masked request).bare = (body d b request).bare := by
  have hquery : (queryOf d b.masked.criteria).bare = (queryOf d b.criteria).bare :=
    bare_queryOf_masked d b.criteria
  have hset : (Assignment.object b.masked.assignments).bare =
      (Assignment.object b.assignments).bare :=
    Assignment.bare_object_masked b.assignments
  cases request with
  | select =>
    have hbody : ∀ rest : List (String × Document Value),
        (Document.object (("query", queryOf d b.masked.criteria) :: rest)).bare =
          (Document.object (("query", queryOf d b.criteria) :: rest)).bare := by
      simp [Document.bareEntry, hquery]
    exact hbody _
  | update allow => simp [body, updateBody, hquery, hset, Document.bareEntry]
  | delete allow => simp [body, deleteBody, hquery]
  | insert primaryKey asked => exact Assignment.bare_object_masked b.row

theorem part_masked (request : Request) (d : Dialect) (b : SearchCommand) (e : Endpoint) :
    (b.masked.part request d e).masked = (b.part request d e).masked := by
  have h := Document.masked_inSpelling Document.inJson (bare_body_masked d b.content request)
  simp only [part, Statement.masked_append, masked, h]

/-- A mask over search commands. -/
def masking : Masking SearchCommand where
  rows := true
  hide := masked
  call c b := by
    have h := DocumentCommand.call_masked "search endpoint" c b.content
    show call (c.masked true) b.masked = ((call c b).1, (call c b).2.masked)
    simp only [call, masked, h]
  openGroup _ _ := rfl
  closeGroup _ _ _ := rfl
  answer q b := by
    cases q with
    | args => simp [Query.answer, Builder.args, Reply.masked, masked, DocumentCommand.masked]
    | _ => rfl
  result request d quote b := by
    show (b.masked.render request d quote).result.map _ = (b.render request d quote).result.map _
    have hendpoint : b.masked.endpoint request.operation = b.endpoint request.operation := rfl
    have hpermit : b.masked.content.permit request = b.content.permit request :=
      b.content.permit_masked request
    rw [render_result, render_result, hpermit, hendpoint]
    cases b.content.permit request with
    | error e => rfl
    | ok =>
      cases b.endpoint request.operation with
      | error e => rfl
      | ok e =>
        simp [Except.map, Except.bind, part_masked,
          show b.masked.content.args = nulls b.content.args from rfl]
  withArgs args b := { b with content := { b.content with args } }
  hide_withArgs _ _ := rfl
  after := after_render

end SearchCommand

end DataCommand
