import DataCommand.Dialect.Builtin
import DataCommand.DocumentCommand.Render
import DataCommand.Proofs.Filter.Frame
import DataCommand.Proofs.Parts.Basic
import DataCommand.SearchCommand.Basic
import DataCommand.SqlCommand.Render

/-!
Interleaving. Commands of all families consist of parts, so the order of construction calls on
different parts does not matter. Grouping and sort keys of a relational command look as if they
depended on the projections; but what a key is written as is decided when the command is rendered,
and until then it is only kept.
-/

namespace DataCommand

namespace SqlCommand

/-- The command with nothing in it but one of its parts. -/
def only : Part → SqlCommand → SqlCommand
  | .target, b => { target := b.target }
  | .projection, b =>
    { projections := b.projections, terms := b.terms, allFields := b.allFields }
  | .filter, b =>
    { filter := b.filter, hasConditions := b.hasConditions, stage := b.stage,
      groupPlace := b.groupPlace, sortPlace := b.sortPlace }
  | .assignment, b => { assignments := b.assignments }
  | .row, b => { row := b.row }
  | .args, b => { args := b.args }

@[simp] theorem only_filter_filter (b : SqlCommand) : (only .filter b).filter = b.filter := rfl

@[simp] theorem only_filter_stage (b : SqlCommand) : (only .filter b).stage = b.stage := rfl

theorem ext_only {b b' : SqlCommand} (h : ∀ p, only p b = only p b') : b = b' := by
  have htarget := h .target
  have hprojection := h .projection
  have hfilter := h .filter
  have hassignment := h .assignment
  have hrow := h .row
  have hargs := h .args
  cases b
  cases b'
  simp_all [only]

theorem restrict_only (k : Connective) (c : Condition) (b : SqlCommand) :
    restrict k c (only .filter b) = ((restrict k c b).1, only .filter (restrict k c b).2) := by
  unfold restrict
  rw [only_filter_stage]
  cases b.stage.admitsCondition with
  | error e => rfl
  | ok => cases c.check <;> rfl

theorem restrictVerbatim_only (k : Connective) (text : String) (args : List Value)
    (b : SqlCommand) :
    restrictVerbatim k text args (only .filter b) =
      ((restrictVerbatim k text args b).1, only .filter (restrictVerbatim k text args b).2) := by
  unfold restrictVerbatim
  rw [only_filter_stage]
  cases b.stage.admitsCondition with
  | error e => rfl
  | ok => cases Text.isBlank text <;> rfl

theorem pushKey_only (place : Nat) (key : Fragment) (b : SqlCommand) :
    pushKey place key (only .filter b) =
      ((pushKey place key b).1, only .filter (pushKey place key b).2) := by
  unfold pushKey
  rw [only_filter_filter]
  cases Fragment.pushAt key place b.filter <;> rfl

theorem groupBy_only (column : String) (term : Option String) (b : SqlCommand) :
    groupBy column term (only .filter b) =
      ((groupBy column term b).1, only .filter (groupBy column term b).2) := by
  unfold groupBy
  rw [only_filter_stage]
  cases b.stage.admitsGrouping with
  | error e => rfl
  | ok => exact pushKey_only _ _ { b with filter := _, groupPlace := _, stage := _ }

theorem openGroup_only (k : Connective) (b : SqlCommand) :
    openGroup k (only .filter b) =
      (openGroup k b).map fun opening => (opening.1, only .filter opening.2) := by
  unfold openGroup
  rw [only_filter_stage]
  cases b.stage.admitsCondition <;> rfl

theorem closeGroup_only (mark : GroupMark) (verdict : Except CommandError Unit) (b : SqlCommand) :
    closeGroup mark verdict (only .filter b) =
      ((closeGroup mark verdict b).1, only .filter (closeGroup mark verdict b).2) := by
  unfold closeGroup
  rw [only_filter_stage, only_filter_filter]
  cases verdict with
  | error e => rfl
  | ok =>
    cases b.stage.admitsCondition with
    | error e => rfl
    | ok => cases Fragment.endsOpen b.filter <;> rfl

theorem call_own {p : Part} {c : Call} (h : c.part? = some p) (b : SqlCommand) :
    call c (only p b) = ((call c b).1, only p (call c b).2) := by
  cases c with
  | clear => cases h
  | condition k c =>
    cases h
    exact b.restrict_only k c
  | verbatim k text args =>
    cases h
    exact b.restrictVerbatim_only k text args
  | groupBy column term =>
    cases h
    exact b.groupBy_only column term
  | sortBy column term order nulls =>
    cases h
    exact pushKey_only _ _ { b with filter := _, sortPlace := _, stage := _ }
  | supply column value term =>
    cases h
    have hrow : (only .row b).row = b.row := rfl
    simp only [call, hrow]
    cases Assignment.pushNew column value term b.row <;> rfl
  | _ =>
    cases h
    rfl

/-- All parts but the filter are what they were, whatever becomes of the filter. -/
theorem only_other {q : Part} (hq : q ≠ .filter) (b : SqlCommand) (filter : List Fragment)
    (hasConditions : Bool) (stage : Stage) (groupPlace sortPlace : Option Nat) :
    only q { b with filter, hasConditions, stage, groupPlace, sortPlace } = only q b := by
  cases q with
  | filter => exact absurd rfl hq
  | _ => rfl

theorem only_pushKey {q : Part} (hq : q ≠ .filter) (place : Nat) (key : Fragment)
    (b : SqlCommand) : only q (pushKey place key b).2 = only q b := by
  unfold pushKey
  cases Fragment.pushAt key place b.filter with
  | none => rfl
  | some filter => exact only_other hq b filter _ _ _ _

theorem only_openGroup {q : Part} (hq : q ≠ .filter) {k : Connective} {b opened : SqlCommand}
    {mark : GroupMark} (h : openGroup k b = .ok (mark, opened)) : only q opened = only q b := by
  obtain ⟨-, e, herror⟩ | ⟨-, hok⟩ := b.openGroup_cases k
  · simp [herror] at h
  · obtain ⟨-, rfl⟩ : _ ∧ _ = opened := by simpa [hok] using h
    exact only_other hq b _ _ _ _ _

theorem only_closeGroup {q : Part} (hq : q ≠ .filter) (mark : GroupMark)
    (verdict : Except CommandError Unit) (b : SqlCommand) :
    only q (closeGroup mark verdict b).2 = only q b := by
  rw [closeGroup_snd]
  split <;> exact only_other hq b _ _ _ _ _

theorem call_other {p q : Part} {c : Call} (h : c.part? = some p) (hq : q ≠ p)
    (b : SqlCommand) : only q (call c b).2 = only q b := by
  cases c with
  | clear => cases h
  | condition k c =>
    cases h
    obtain ⟨e, hcall⟩ | ⟨-, -, hcall⟩ := b.restrict_cases k c
    · rw [call, hcall]
    · rw [call, hcall]
      exact only_other hq b _ _ _ _ _
  | verbatim k text args =>
    cases h
    obtain ⟨e, hcall⟩ | ⟨-, -, hcall⟩ := b.restrictVerbatim_cases k text args
    · rw [call, hcall]
    · rw [call, hcall]
      exact only_other hq b _ _ _ _ _
  | groupBy column term =>
    cases h
    simp only [call, groupBy]
    cases b.stage.admitsGrouping with
    | error e => rfl
    | ok => exact (only_pushKey hq _ _ _).trans (only_other hq b _ _ _ _ _)
  | sortBy column term order nulls =>
    cases h
    exact (only_pushKey hq _ _ _).trans (only_other hq b _ _ _ _ _)
  | supply column value term =>
    cases h
    simp only [call]
    cases Assignment.pushNew column value term b.row with
    | error e => rfl
    | ok row => cases q <;> first | rfl | exact absurd rfl hq
  | _ =>
    cases h
    cases q <;> first | rfl | exact absurd rfl hq

instance : Partitioned SqlCommand where
  only := only
  ext := ext_only
  call_own := call_own
  call_other := call_other
  openGroup_own := openGroup_only
  openGroup_other := only_openGroup
  closeGroup_own := closeGroup_only
  closeGroup_other := only_closeGroup

end SqlCommand

namespace DocumentCommand

/-- The command with nothing in it but one of its parts. -/
def only : Part → DocumentCommand → DocumentCommand
  | .target, b => { target := b.target }
  | .projection, b => { projections := b.projections, allFields := b.allFields }
  | .filter, b => { criteria := b.criteria, stage := b.stage, sorts := b.sorts }
  | .assignment, b => { assignments := b.assignments }
  | .row, b => { row := b.row }
  | .args, b => { args := b.args }

theorem ext_only {b b' : DocumentCommand} (h : ∀ p, only p b = only p b') : b = b' := by
  have htarget := h .target
  have hprojection := h .projection
  have hfilter := h .filter
  have hassignment := h .assignment
  have hrow := h .row
  have hargs := h .args
  cases b
  cases b'
  simp_all [only]

theorem call_own (label : String) {p : Part} {c : Call} (h : c.part? = some p)
    (b : DocumentCommand) :
    call label c (only p b) = ((call label c b).1, only p (call label c b).2) := by
  cases c with
  | clear => cases h
  | condition k c =>
    cases h
    have hstage : (only .filter b).stage = b.stage := rfl
    simp only [call, restrict, hstage]
    cases c.check with
    | error e => rfl
    | ok => cases b.stage.admitsCondition <;> rfl
  | supply column value term =>
    cases h
    have hrow : (only .row b).row = b.row := rfl
    simp only [call, hrow]
    cases Assignment.pushNew column value term b.row <;> rfl
  | _ =>
    cases h
    rfl

theorem call_other (label : String) {p q : Part} {c : Call} (h : c.part? = some p) (hq : q ≠ p)
    (b : DocumentCommand) : only q (call label c b).2 = only q b := by
  cases c with
  | clear => cases h
  | condition k c =>
    cases h
    simp only [call, restrict]
    cases c.check with
    | error e => rfl
    | ok =>
      cases b.stage.admitsCondition with
      | error e => rfl
      | ok => cases q <;> first | rfl | exact absurd rfl hq
  | supply column value term =>
    cases h
    simp only [call]
    cases Assignment.pushNew column value term b.row with
    | error e => rfl
    | ok row => cases q <;> first | rfl | exact absurd rfl hq
  | _ =>
    cases h
    cases q <;> first | rfl | exact absurd rfl hq

instance : Partitioned DocumentCommand where
  only := only
  ext := ext_only
  call_own := call_own "document store"
  call_other := call_other "document store"
  openGroup_own _ _ := rfl
  openGroup_other _ _ _ _ _ h := nomatch h
  closeGroup_own _ _ _ := rfl
  closeGroup_other _ _ _ _ := rfl

end DocumentCommand

namespace SearchCommand

/-- The command with nothing in it but one of its parts. The layout of paths is given with the
family, and is no part. -/
def only (p : Part) (b : SearchCommand) : SearchCommand := { b with content := b.content.only p }

theorem ext_only {b b' : SearchCommand} (h : ∀ p, only p b = only p b') : b = b' := by
  have hcontent : b.content = b'.content :=
    DocumentCommand.ext_only fun p => congrArg content (h p)
  have hlayout : b.layout = b'.layout := by simpa [only] using congrArg layout (h .target)
  cases b
  cases b'
  simp_all

instance : Partitioned SearchCommand where
  only := only
  ext := ext_only
  call_own h b := by
    have hcontent := DocumentCommand.call_own "search endpoint" h b.content
    simp only [Builder.call, call, only, hcontent]
  call_other h hq b := by
    have hcontent := DocumentCommand.call_other "search endpoint" h hq b.content
    simp only [Builder.call, call, only, hcontent]
  openGroup_own _ _ := rfl
  openGroup_other _ _ _ _ _ h := nomatch h
  closeGroup_own _ _ _ := rfl
  closeGroup_other _ _ _ _ := rfl

end SearchCommand

section Course
variable {σ : Type} [Builder σ]

/-- Two scripts come to the same on a command: steps that correspond, which are those in the same
place among the steps on one part, get the same replies, and whatever the commands at the end are
rendered for, the answers are the same. -/
structure SameCourse (steps steps' : List Step) (b : σ) : Prop where
  answered : (Step.runAll true steps b).reply.length = steps.length
  answered' : (Step.runAll true steps' b).reply.length = steps'.length
  replies : ∀ p, Step.repliesOn p steps (Step.runAll true steps b).reply =
    Step.repliesOn p steps' (Step.runAll true steps' b).reply
  after : (Step.runAll true steps b).after = (Step.runAll true steps' b).after
  rendered : ∀ (request : Request) (d : Dialect) (quote : Bool),
    Builder.render request d quote (Step.runAll true steps b).after =
      Builder.render request d quote (Step.runAll true steps' b).after

theorem sameCourse_of_filter_eq [Partitioned σ] {steps steps' : List Step}
    (hparts : ∀ s ∈ steps, s.part?.isSome) (hparts' : ∀ s ∈ steps', s.part?.isSome)
    (h : ∀ p, steps.filter (Step.isOn p) = steps'.filter (Step.isOn p)) (b : σ) :
    SameCourse steps steps' b := by
  have hpart (p : Part) := Step.runAll_filter p steps hparts b
  have hpart' (p : Part) := Step.runAll_filter p steps' hparts' b
  have hafter : (Step.runAll true steps b).after = (Step.runAll true steps' b).after :=
    Partitioned.ext fun p => by rw [← (hpart p).2, ← (hpart' p).2, h p]
  refine ⟨Step.length_reply_runAll steps b, Step.length_reply_runAll steps' b, fun p => ?_,
    hafter, fun _ _ _ => by rw [hafter]⟩
  rw [← (hpart p).1, ← (hpart' p).1, h p]

end Course

/-- In every family, scripts of construction calls that make the same calls on each part, in
whatever way these are interleaved, come to the same. -/
theorem parts_interleave_freely {steps steps' : List Step}
    (hparts : ∀ s ∈ steps, s.part?.isSome) (hparts' : ∀ s ∈ steps', s.part?.isSome)
    (h : ∀ p, steps.filter (Step.isOn p) = steps'.filter (Step.isOn p)) :
    (∀ b : SqlCommand, SameCourse steps steps' b) ∧
    (∀ b : DocumentCommand, SameCourse steps steps' b) ∧
    (∀ b : SearchCommand, SameCourse steps steps' b) :=
  ⟨sameCourse_of_filter_eq hparts hparts' h, sameCourse_of_filter_eq hparts hparts' h,
    sameCourse_of_filter_eq hparts hparts' h⟩

/-- Keys first, and then the column that they are about. -/
def keysFirst : List Step :=
  [.call (.groupBy "y" none), .call (.sortBy "y" none .desc .default),
    .call (.project "y" (some "YEAR(created)"))]

/-- The same calls with the column first. -/
def columnFirst : List Step :=
  [.call (.project "y" (some "YEAR(created)")), .call (.groupBy "y" none),
    .call (.sortBy "y" none .desc .default)]

/-- A column that is projected after its keys makes the same of them as one projected before. -/
theorem parts_interleave_freely_keysFirst :
    let start : SqlCommand := { target := { table := "t" } }
    (∀ p, keysFirst.filter (Step.isOn p) = columnFirst.filter (Step.isOn p)) ∧
      SameCourse keysFirst columnFirst start ∧
      ((Step.runAll true keysFirst start).after.render .select .standard
          false).result.toOption.map Statement.text =
        some "SELECT YEAR(created) y FROM t GROUP BY YEAR(created) ORDER BY y DESC" := by
  intro start
  have hparts : ∀ s ∈ keysFirst, s.part?.isSome := by simp [keysFirst, Step.part?, Call.part?]
  have hparts' : ∀ s ∈ columnFirst, s.part?.isSome := by
    simp [columnFirst, Step.part?, Call.part?]
  have h : ∀ p, keysFirst.filter (Step.isOn p) = columnFirst.filter (Step.isOn p) := by
    intro p
    cases p <;> rfl
  exact ⟨h, (parts_interleave_freely hparts hparts' h).1 start, by decide +kernel⟩

end DataCommand
