import DataCommand.Proofs.Rendering
import DataCommand.Proofs.Session
import DataCommand.Proofs.Statement

/-!
What the calls of a relational command do to its filter. The filter, its flag, the stage and the two
remembered places are one part of the command: a handful of calls work on it and read nothing else,
and all other calls leave it as it is.
-/

namespace DataCommand

/-- The call neither adds to the filter nor resets it. -/
def Call.leavesFilter : Call → Bool
  | .condition _ _ | .verbatim _ _ _ | .groupBy _ _ | .sortBy _ _ _ _ | .clear => false
  | _ => true

/-- The part of a relational command that filter calls read and write. -/
structure FilterState where
  filter : List Fragment := []
  hasConditions : Bool := false
  stage : Stage := .filtering
  groupPlace : Option Nat := none
  sortPlace : Option Nat := none

namespace SqlCommand

def filterState (b : SqlCommand) : FilterState :=
  ⟨b.filter, b.hasConditions, b.stage, b.groupPlace, b.sortPlace⟩

theorem filterState_call {c : Call} (h : c.leavesFilter) (b : SqlCommand) :
    (call c b).2.filterState = b.filterState := by
  cases c with
  | supply column value term =>
    simp only [call]
    split <;> rfl
  | condition | verbatim | groupBy | sortBy | clear => simp [Call.leavesFilter] at h
  | _ => rfl

/-- Rendering changes nothing but the bound values. -/
theorem render_after (request : Request) (d : Dialect) (quote : Bool) (b : SqlCommand) :
    ∃ args, (b.render request d quote).after = { b with args } := by
  rw [after_render]
  split
  · exact ⟨_, rfl⟩
  · exact ⟨b.args, rfl⟩

theorem filterState_render (request : Request) (d : Dialect) (quote : Bool) (b : SqlCommand) :
    (b.render request d quote).after.filterState = b.filterState := by
  obtain ⟨args, h⟩ := b.render_after request d quote
  rw [h]
  rfl

/-! ### The filter in a statement -/

/-- The style in which a request writes the filter. Only a query has projections for keys to refer
to. -/
def filterStyle (request : Request) (d : Dialect) (quote : Bool) (b : SqlCommand) : Style :=
  { dialect := d, quote, terms := match request with | .select => b.terms | _ => [] }

/-- A command other than an insert is written with its filter at the end, and what comes before the
filter does not depend on it. -/
theorem part_append (request : Request) (hinsert : request.operation ≠ .insert) (d : Dialect)
    (quote : Bool) (b : SqlCommand) :
    b.part request d quote =
      ({ b with filter := [] } : SqlCommand).part request d quote ++
        b.filterText (b.filterStyle request d quote) := by
  cases request with
  | select | update | delete => exact congrArg (· ++ _) (Statement.append_plain_empty _).symm
  | insert => exact absurd rfl hinsert

theorem render_result_append (request : Request) (hinsert : request.operation ≠ .insert)
    (d : Dialect) (quote : Bool) (b : SqlCommand) :
    (b.render request d quote).result =
      (({ b with filter := [] } : SqlCommand).render request d quote).result.map
        (· ++ b.filterText (b.filterStyle request d quote)) := by
  have hpermit : ({ b with filter := [] } : SqlCommand).permit request = b.permit request := rfl
  rw [render_result, render_result, hpermit, part_append request hinsert, Statement.after_append]
  cases b.permit request <;> rfl

/-! ### Conditions -/

/-- A condition is refused without a trace, or it comes to the end of the filter. -/
theorem restrict_cases (connective : Connective) (c : Condition) (b : SqlCommand) :
    (∃ e, b.restrict connective c = (.error e, b)) ∨
      b.stage = .filtering ∧ c.fault? = none ∧
        b.restrict connective c = (.ok (), b.append connective c.fragment) := by
  unfold restrict
  split
  · exact .inl ⟨_, rfl⟩
  · rename_i hstage
    cases hfault : c.fault? with
    | some fault => exact .inl ⟨.invalid fault, by simp only [Condition.check, hfault]⟩
    | none =>
      exact .inr ⟨(Stage.admitsCondition_eq_ok_iff _).1 hstage, rfl,
        by simp only [Condition.check, hfault]⟩

/-- A text is refused without a trace, or it comes to the end of the filter. -/
theorem restrictVerbatim_cases (connective : Connective) (text : String) (args : List Value)
    (b : SqlCommand) :
    (∃ e, b.restrictVerbatim connective text args = (.error e, b)) ∨
      b.stage = .filtering ∧ Text.isBlank text = false ∧
        b.restrictVerbatim connective text args =
          (.ok (), b.append connective (.verbatim text args)) := by
  unfold restrictVerbatim
  split
  · exact .inl ⟨_, rfl⟩
  · rename_i hstage
    split
    · exact .inl ⟨_, rfl⟩
    · rename_i hblank
      exact .inr ⟨(Stage.admitsCondition_eq_ok_iff _).1 hstage, by simpa using hblank, rfl⟩

/-! ### Groups -/

/-- A group is refused after the filtering stage, and else put behind its connective. -/
theorem openGroup_cases (connective : Connective) (b : SqlCommand) :
    (b.stage ≠ .filtering ∧ ∃ e, b.openGroup connective = .error e) ∨
      b.stage = .filtering ∧
        b.openGroup connective = .ok (⟨b.filter.length, b.hasConditions⟩,
          { b with filter := b.filter ++ lead b.filter connective ++ [.openParen] }) := by
  unfold openGroup
  cases hstage : b.stage
  · exact .inr ⟨rfl, rfl⟩
  · exact .inl ⟨by simp, _, rfl⟩
  · exact .inl ⟨by simp, _, rfl⟩

/-- A group that is not kept: it failed, it ran into a later stage, or nothing came after its
opening parenthesis. -/
def undoes (b : SqlCommand) (verdict : Except CommandError Unit) : Bool :=
  !verdict.isOk || b.stage != .filtering || Fragment.endsOpen b.filter

/-- The command without what a group has added since its mark. -/
def undo (mark : GroupMark) (b : SqlCommand) : SqlCommand :=
  { b with filter := b.filter.take mark.length, hasConditions := mark.hadConditions }

theorem closeGroup_snd (mark : GroupMark) (verdict : Except CommandError Unit) (b : SqlCommand) :
    (b.closeGroup mark verdict).2 =
      if b.undoes verdict then b.undo mark else { b with filter := b.filter ++ [.closeParen] } := by
  unfold closeGroup undoes undo
  cases verdict with
  | error e => simp [Except.isOk, Except.toBool]
  | ok =>
    cases hstage : b.stage with
    | filtering =>
      cases hopen : Fragment.endsOpen b.filter <;>
        simp [Stage.admitsCondition, Except.isOk, Except.toBool]
    | _ => simp [Stage.admitsCondition]

/-- Before keys come, a group ends as its contents are judged. -/
theorem closeGroup_fst (mark : GroupMark) (verdict : Except CommandError Unit) {b : SqlCommand}
    (h : b.stage = .filtering) : (b.closeGroup mark verdict).1 = verdict := by
  unfold closeGroup
  cases verdict with
  | error e => rfl
  | ok =>
    simp only [h, Stage.admitsCondition]
    split <;> rfl

/-! ### Keys -/

theorem pushAt_append (key : Fragment) (separator : String) (items rest : List Fragment) :
    ∀ (earlier : List Fragment),
      Fragment.pushAt key earlier.length (earlier ++ .joined separator items :: rest) =
        some (earlier ++ .joined separator (items ++ [key]) :: rest)
  | [] => rfl
  | f :: earlier => by
    simp [Fragment.pushAt, pushAt_append key separator items rest earlier]

end SqlCommand

namespace Session

/-- What a move makes of a session of a relational command. -/
inductive Moved (s : Session SqlCommand) : Move → Session SqlCommand → Prop where
  | called (c : Call) : Moved s (.call c) ⟨(SqlCommand.call c s.command).2, s.marks⟩
  | rendered (request : Request) (d : Dialect) (quote : Bool) (args : Arguments) :
      Moved s (.render request d quote) ⟨{ s.command with args }, s.marks⟩
  | refused (k : Connective) (hstage : s.command.stage ≠ .filtering) : Moved s (.openGroup k) s
  | opened (k : Connective) (hstage : s.command.stage = .filtering) :
      Moved s (.openGroup k)
        ⟨{ s.command with
            filter := s.command.filter ++ SqlCommand.lead s.command.filter k ++ [.openParen] },
          ⟨s.command.filter.length, s.command.hasConditions⟩ :: s.marks⟩
  | unopened (verdict : Except CommandError Unit) (hmarks : s.marks = []) :
      Moved s (.closeGroup verdict) s
  | undone (verdict : Except CommandError Unit) {mark : GroupMark} {rest : List GroupMark}
      (hmarks : s.marks = mark :: rest) (hundoes : s.command.undoes verdict = true) :
      Moved s (.closeGroup verdict) ⟨s.command.undo mark, rest⟩
  | closed (verdict : Except CommandError Unit) {mark : GroupMark} {rest : List GroupMark}
      (hmarks : s.marks = mark :: rest) (hundoes : s.command.undoes verdict = false) :
      Moved s (.closeGroup verdict)
        ⟨{ s.command with filter := s.command.filter ++ [.closeParen] }, rest⟩

theorem moved_step (s : Session SqlCommand) (m : Move) : s.Moved m (s.step m) := by
  cases m with
  | call c => exact .called c
  | render request d quote =>
    obtain ⟨args, h⟩ := s.command.render_after request d quote
    have hstep : s.step (.render request d quote) = ⟨{ s.command with args }, s.marks⟩ :=
      congrArg (Session.mk · s.marks) h
    rw [hstep]
    exact .rendered request d quote args
  | openGroup k =>
    obtain ⟨hstage, e, h⟩ | ⟨hstage, h⟩ := s.command.openGroup_cases k
    · have h : Builder.openGroup k s.command = .error e := h
      simp only [step, h]
      exact .refused k hstage
    · have h : Builder.openGroup k s.command = .ok _ := h
      simp only [step, h]
      exact .opened k hstage
  | closeGroup verdict =>
    cases hmarks : s.marks with
    | nil =>
      simp only [step, hmarks]
      exact .unopened verdict hmarks
    | cons mark rest =>
      simp only [step, hmarks, Builder.closeGroup, SqlCommand.closeGroup_snd]
      cases hundoes : s.command.undoes verdict with
      | true => exact .undone verdict hmarks hundoes
      | false => exact .closed verdict hmarks hundoes

end Session

end DataCommand
