import DataCommand.Builder.Chain
import DataCommand.Proofs.Session

/-!
Chains as sessions. Most links of a chain make one call on its command, so whatever a chain does to
a command is a list of moves, and a command under a chain is one that moves have led to. What a
chain remembers does not come into it, except that a remembered error keeps requests from the
command.
-/

namespace DataCommand

/-- The call of a link that makes one, if `pending` is the connective of the next condition. -/
def Link.call? (pending : Connective) : Link → Option Call
  | .setTarget target => some (.setTarget target)
  | .condition c => some (.condition pending c)
  | .verbatim text args => some (.verbatim pending text args)
  | .projectAs column term => some (.project column (some term))
  | .projectText text args => some (.projectText text args)
  | .projectAll => some .projectAll
  | .groupBy column => some (.groupBy column none)
  | .sortBy column term order nulls => some (.sortBy column term order nulls)
  | .assign column value term => some (.assign column value term)
  | .supply column value term => some (.supply column value term)
  | _ => none

section Run
variable {σ : Type} [Builder σ]

/-- A link with a call makes it on the command, and keeps its error if it is the first one. -/
theorem Link.run_of_call {l : Link} {c : Chain σ} {call : Call}
    (h : l.call? c.pending = some call) :
    ∃ before : Chain σ, before.command = c.command ∧ before.error = c.error ∧
      l.run c = ⟨.recorded (before.call call).error, [], before.call call⟩ := by
  cases l with
  | condition | verbatim =>
    obtain rfl := Option.some.inj h
    exact ⟨c.settled, rfl, rfl, rfl⟩
  | setTarget | projectAs | projectText | projectAll | groupBy | sortBy | assign | supply =>
    obtain rfl := Option.some.inj h
    exact ⟨c, rfl, rfl, rfl⟩
  | _ => simp [Link.call?] at h

/-- Columns that are projected one after another are as many moves. -/
theorem Chain.exists_moves_project (marks : List GroupMark) :
    ∀ (columns : List String) (c : Chain σ), ∃ moves, Session.run ⟨c.command, marks⟩ moves =
      ⟨(columns.foldl (fun c column => c.call (.project column none)) c).command, marks⟩
  | [], _ => ⟨[], rfl⟩
  | column :: rest, c => by
    obtain ⟨moves, hmoves⟩ := exists_moves_project marks rest (c.call (.project column none))
    exact ⟨.call (.project column none) :: moves, hmoves⟩

mutual

/-- A link of a chain is a list of moves that leaves the open groups open. -/
theorem Link.exists_moves : (l : Link) → (c : Chain σ) → (marks : List GroupMark) →
    ∃ moves, Session.run ⟨c.command, marks⟩ moves = ⟨(l.run c).after.command, marks⟩
  | .group body, c, marks => by
    cases hopen : Builder.openGroup c.pending c.command with
    | error e => exact ⟨[], by simp [Session.run, Link.run, hopen, Chain.keep, Chain.settled]⟩
    | ok opening =>
      obtain ⟨mark, opened⟩ := opening
      obtain ⟨inner, hinner⟩ := Link.exists_moves_all body { command := opened } (mark :: marks)
      refine ⟨_, (Session.run_group hopen hinner
        (Link.runAll body { command := opened }).after.check).trans ?_⟩
      simp [Link.run, hopen, Chain.keep]
  | .render request d quote, c, marks => by
    cases herror : c.error with
    | some e => exact ⟨[], by simp [Session.run, Link.run, Chain.render, herror]⟩
    | none =>
      exact ⟨[.render request d quote],
        by simp [Session.run, Session.step, Link.run, Chain.render, herror]⟩
  | .direct step, c, marks => step.exists_moves c.command marks
  | .project columns, c, marks => c.exists_moves_project marks columns
  | .clear, _, _ => ⟨[.call .clear], rfl⟩
  | .setTarget target, _, _ => ⟨[.call (.setTarget target)], rfl⟩
  | .condition p, c, _ => ⟨[.call (.condition c.pending p)], rfl⟩
  | .verbatim text args, c, _ => ⟨[.call (.verbatim c.pending text args)], rfl⟩
  | .projectAs column term, _, _ => ⟨[.call (.project column (some term))], rfl⟩
  | .projectText text args, _, _ => ⟨[.call (.projectText text args)], rfl⟩
  | .projectAll, _, _ => ⟨[.call .projectAll], rfl⟩
  | .groupBy column, _, _ => ⟨[.call (.groupBy column none)], rfl⟩
  | .sortBy column term order nulls, _, _ => ⟨[.call (.sortBy column term order nulls)], rfl⟩
  | .assign column value term, _, _ => ⟨[.call (.assign column value term)], rfl⟩
  | .supply column value term, _, _ => ⟨[.call (.supply column value term)], rfl⟩
  | .or, _, _ | .and, _, _ | .not, _, _ | .check, _, _ | .refused _, _, _ => ⟨[], rfl⟩

theorem Link.exists_moves_all : (links : List Link) → (c : Chain σ) → (marks : List GroupMark) →
    ∃ moves, Session.run ⟨c.command, marks⟩ moves = ⟨(Link.runAll links c).after.command, marks⟩
  | [], _, _ => ⟨[], rfl⟩
  | l :: rest, c, marks => by
    obtain ⟨head, hhead⟩ := Link.exists_moves l c marks
    obtain ⟨tail, htail⟩ := Link.exists_moves_all rest (l.run c).after marks
    exact ⟨head ++ tail, by rw [Session.run_append, hhead, htail]; rfl⟩

end

/-- The command under a chain is reachable if the one that the chain began with is. -/
theorem Chain.reachable_runAll {start : σ} {c : Chain σ} (h : Reachable start c.command)
    (links : List Link) : Reachable start (Link.runAll links c).after.command := by
  obtain ⟨earlier, hearlier⟩ := h
  have hcommand : Session.run ⟨start, []⟩ earlier =
      ⟨c.command, (Session.run ⟨start, []⟩ earlier).marks⟩ := by
    rw [← hearlier]
  obtain ⟨moves, hmoves⟩ := Link.exists_moves_all links c (Session.run ⟨start, []⟩ earlier).marks
  exact ⟨earlier ++ moves, by rw [Session.run_append, hcommand, hmoves]⟩

end Run

end DataCommand
