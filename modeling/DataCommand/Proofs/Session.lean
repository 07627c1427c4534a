import DataCommand.Builder.Script

/-!
Sessions: a command together with the groups that are open on it. Whatever a caller does with a
command is a list of moves, inside a group as well as outside; a group that decides on its next
call by the answers so far makes one such list, too. Every script is a list of moves, so a law of
all moves is a law of all scripts, and holds in the middle of a group as well.
-/

namespace DataCommand

/-- What a caller does next. -/
inductive Move where
  | call (c : Call)
  | render (request : Request) (dialect : Dialect) (quote : Bool)
  | openGroup (connective : Connective)
  /-- The innermost open group ends with this verdict on its contents. -/
  | closeGroup (verdict : Except CommandError Unit)

/-- A command with the marks of the groups that are open on it, innermost first. -/
structure Session (σ : Type) where
  command : σ
  marks : List GroupMark := []

namespace Session
variable {σ : Type} [Builder σ]

/-- The session after a move. A group that is refused stays closed. -/
def step (s : Session σ) : Move → Session σ
  | .call c => { s with command := (Builder.call c s.command).2 }
  | .render request d quote =>
    { s with command := (Builder.render request d quote s.command).after }
  | .openGroup connective =>
    match Builder.openGroup connective s.command with
    | .error _ => s
    | .ok (mark, opened) => ⟨opened, mark :: s.marks⟩
  | .closeGroup verdict =>
    match s.marks with
    | [] => s
    | mark :: rest => ⟨(Builder.closeGroup mark verdict s.command).2, rest⟩

/-- The session after some moves. -/
def run (s : Session σ) (moves : List Move) : Session σ := moves.foldl step s

theorem run_append (s : Session σ) (xs ys : List Move) : s.run (xs ++ ys) = (s.run xs).run ys :=
  List.foldl_append

/-- Moves inside a group, between opening and closing it. -/
theorem run_group {k : Connective} {b opened inner : σ} {mark : GroupMark} {marks : List GroupMark}
    (hopen : Builder.openGroup k b = .ok (mark, opened)) {moves : List Move}
    (hinner : run ⟨opened, mark :: marks⟩ moves = ⟨inner, mark :: marks⟩)
    (verdict : Except CommandError Unit) :
    run ⟨b, marks⟩ (.openGroup k :: (moves ++ [.closeGroup verdict])) =
      ⟨(Builder.closeGroup mark verdict inner).2, marks⟩ := by
  have hstep : (⟨b, marks⟩ : Session σ).step (.openGroup k) = ⟨opened, mark :: marks⟩ := by
    simp [step, hopen]
  calc run ⟨b, marks⟩ (.openGroup k :: (moves ++ [.closeGroup verdict]))
      = (run ⟨opened, mark :: marks⟩ moves).run [.closeGroup verdict] := by
        rw [← run_append, ← hstep]; rfl
    _ = ⟨(Builder.closeGroup mark verdict inner).2, marks⟩ := by rw [hinner]; rfl

/-- What every move preserves, every run preserves. -/
theorem run_preserves {P : Session σ → Prop} (hstep : ∀ s m, P s → P (s.step m)) :
    ∀ (moves : List Move) (s : Session σ), P s → P (s.run moves)
  | [], _, hs => hs
  | m :: rest, s, hs => run_preserves hstep rest (s.step m) (hstep s m hs)

end Session

/-- Some moves lead from one command to another. Groups may be open at the end. -/
def Reachable {σ : Type} [Builder σ] (start b : σ) : Prop :=
  ∃ moves, (Session.run ⟨start, []⟩ moves).command = b

section Script
variable {σ : Type} [Builder σ]

mutual

/-- A step of a script is a list of moves that leaves the open groups open. -/
theorem Step.exists_moves : (s : Step) → (b : σ) → (marks : List GroupMark) →
    ∃ moves, Session.run ⟨b, marks⟩ moves = ⟨(s.run b).after, marks⟩
  | .call c, _, _ => ⟨[.call c], by simp [Session.run, Session.step, Step.run]⟩
  | .render request d quote, _, _ =>
    ⟨[.render request d quote], by simp [Session.run, Session.step, Step.run]⟩
  | .ask _, _, _ => ⟨[], by simp [Session.run, Step.run]⟩
  | .refused _, _, _ => ⟨[], by simp [Session.run, Step.run]⟩
  | .group connective body goOn verdict, b, marks => by
    cases hopen : Builder.openGroup connective b with
    | error e => exact ⟨[], by simp [Session.run, Step.run, hopen]⟩
    | ok opening =>
      obtain ⟨mark, opened⟩ := opening
      obtain ⟨inner, hinner⟩ := Step.exists_moves_all goOn body opened (mark :: marks)
      refine ⟨_, (Session.run_group hopen hinner
        (verdictOn goOn verdict (Step.runAll goOn body opened).reply)).trans ?_⟩
      simp [Step.run, hopen]

theorem Step.exists_moves_all (goOn : Bool) : (steps : List Step) → (b : σ) →
    (marks : List GroupMark) →
    ∃ moves, Session.run ⟨b, marks⟩ moves = ⟨(Step.runAll goOn steps b).after, marks⟩
  | [], _, _ => ⟨[], by simp [Session.run, Step.runAll]⟩
  | s :: rest, b, marks => by
    obtain ⟨head, hhead⟩ := Step.exists_moves s b marks
    by_cases hstop : (!goOn && (s.run b).reply.error?.isSome) = true
    · exact ⟨head, by rw [hhead, Step.runAll, if_pos hstop]⟩
    · obtain ⟨tail, htail⟩ := Step.exists_moves_all goOn rest (s.run b).after marks
      exact ⟨head ++ tail, by rw [Session.run_append, hhead, htail, Step.runAll, if_neg hstop]⟩

end

/-- The command at the end of a script is reachable from the one at its start. -/
theorem reachable_runAll (goOn : Bool) (steps : List Step) (start : σ) :
    Reachable start (Step.runAll goOn steps start).after := by
  obtain ⟨moves, hmoves⟩ := Step.exists_moves_all goOn steps start []
  exact ⟨moves, by rw [hmoves]⟩

end Script

end DataCommand
