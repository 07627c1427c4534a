import DataCommand.Proofs.Rendering
import DataCommand.Proofs.Session

/-!
Document and search commands that calls have led to, and their criteria. Both families take the same
calls on the same content. The criteria are cut into alternatives without loss, and only conditions
that a command takes ever become criteria.
-/

namespace DataCommand

section Reachable
variable {P : DocumentCommand → Prop} (hstart : P {})
  (hcall : ∀ (label : String) (c : Call) (b : DocumentCommand),
    P b → P (DocumentCommand.call label c b).2)
  (hargs : ∀ (args : Arguments) (b : DocumentCommand), P b → P { b with args })
include hstart hcall hargs

/-- What holds at the start, and is preserved by calls and whatever values are bound, holds of every
document command. -/
theorem DocumentCommand.of_reachable {b : DocumentCommand}
    (h : Reachable ({} : DocumentCommand) b) : P b := by
  obtain ⟨moves, rfl⟩ := h
  refine Session.run_preserves (P := fun s : Session DocumentCommand => P s.command)
    (fun s m hs => ?_) moves _ hstart
  cases m with
  | call c => exact hcall _ c _ hs
  | render request d quote =>
    obtain ⟨args, hafter⟩ := s.command.render_after request d quote
    have hrendered : P (s.command.render request d quote).after := hafter ▸ hargs args _ hs
    exact hrendered
  | openGroup => exact hs
  | closeGroup =>
    unfold Session.step
    cases s.marks <;> exact hs

/-- It holds of the content of every search command, too. -/
theorem SearchCommand.of_reachable {layout : PathLayout} {b : SearchCommand}
    (h : Reachable ({ layout } : SearchCommand) b) : P b.content := by
  obtain ⟨moves, rfl⟩ := h
  refine Session.run_preserves (P := fun s : Session SearchCommand => P s.command.content)
    (fun s m hs => ?_) moves _ hstart
  cases m with
  | call c => exact hcall _ c _ hs
  | render request d quote =>
    obtain ⟨args, hafter⟩ := s.command.render_after request d quote
    have hrendered : P (s.command.render request d quote).after.content :=
      hafter ▸ hargs args _ hs
    exact hrendered
  | openGroup => exact hs
  | closeGroup =>
    unfold Session.step
    cases s.marks <;> exact hs

end Reachable

/-- Cutting criteria into alternatives keeps them all, in order. -/
theorem flatten_alternatives :
    ∀ criteria : List Criterion, (alternatives criteria).flatten = criteria
  | [] => rfl
  | [_] => rfl
  | c :: e :: rest => by
    have ih := flatten_alternatives (e :: rest)
    rw [alternatives]
    split
    · rename_i h
      simp [h] at ih
    · rename_i run runs h
      rw [h] at ih
      split <;> simpa using ih

theorem mem_of_mem_alternatives {criteria run : List Criterion} (hrun : run ∈ alternatives criteria)
    {c : Criterion} (hc : c ∈ run) : c ∈ criteria := by
  rw [← flatten_alternatives criteria]
  exact List.mem_flatten_of_mem hrun hc

/-- No alternative is empty. -/
theorem ne_nil_of_mem_alternatives :
    ∀ criteria : List Criterion, ∀ run ∈ alternatives criteria, run ≠ []
  | [] => by simp [alternatives]
  | [_] => by simp [alternatives]
  | c :: e :: rest => by
    have ih := ne_nil_of_mem_alternatives (e :: rest)
    rw [alternatives]
    split
    · simp
    · rename_i hruns
      rw [hruns, List.forall_mem_cons] at ih
      split
      · exact List.forall_mem_cons.2 ⟨List.cons_ne_nil _ _, List.forall_mem_cons.2 ih⟩
      · exact List.forall_mem_cons.2 ⟨List.cons_ne_nil _ _, ih.2⟩

/-- Every criterion belongs to an alternative. -/
theorem exists_mem_alternatives {criteria : List Criterion} {c : Criterion} (hc : c ∈ criteria) :
    ∃ run ∈ alternatives criteria, c ∈ run := by
  rw [← flatten_alternatives criteria] at hc
  exact List.mem_flatten.1 hc

namespace DocumentCommand

/-- Every criterion of the command is one that a command takes. -/
def Accepted (b : DocumentCommand) : Prop := ∀ c ∈ b.criteria, c.condition.fault? = none

/-- A call takes no other criterion. -/
theorem accepted_call (label : String) {b : DocumentCommand} (hb : b.Accepted) (c : Call) :
    (call label c b).2.Accepted := by
  cases c with
  | condition connective c =>
    show (b.restrict connective c).2.Accepted
    unfold restrict Condition.check
    cases hfault : c.fault? with
    | some fault => exact hb
    | none =>
      simp only
      split
      · exact hb
      · intro x hx
        rcases List.mem_append.1 hx with hx | hx
        · exact hb x hx
        · rcases List.mem_singleton.1 hx with rfl
          exact hfault
  | supply column value term =>
    simp only [call]
    split <;> exact hb
  | clear => simp [call, Accepted]
  | _ => exact hb

theorem accepted_of_reachable {b : DocumentCommand} (h : Reachable ({} : DocumentCommand) b) :
    b.Accepted :=
  of_reachable (P := Accepted) (by simp [Accepted]) (fun label c _ hb => accepted_call label hb c)
    (fun _ _ hb => hb) h

end DocumentCommand

/-- The criteria of a search command are those that a command takes. -/
theorem SearchCommand.accepted_of_reachable {layout : PathLayout} {b : SearchCommand}
    (h : Reachable ({ layout } : SearchCommand) b) : b.content.Accepted :=
  of_reachable (P := DocumentCommand.Accepted) (by simp [DocumentCommand.Accepted])
    (fun label c _ hb => DocumentCommand.accepted_call label hb c) (fun _ _ hb => hb) h

end DataCommand
