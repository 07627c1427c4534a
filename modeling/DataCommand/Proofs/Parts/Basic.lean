import DataCommand.Builder.Script

/-!
The parts of a command. Every construction call but the one that resets everything works on a single
part: what it answers depends on that part alone, and all other parts stay as they are. A group
whose script works on the filter does so, too. A script thus falls into one script for each part,
and those know nothing of each other.
-/

namespace DataCommand

/-- A part of a command under construction. -/
inductive Part where
  | target
  | projection
  /-- Conditions, grouping keys and sort keys. -/
  | filter
  | assignment
  | row
  | args
  deriving DecidableEq

/-- The part that a call works on, if it is a single one. -/
def Call.part? : Call → Option Part
  | .setTarget _ => some .target
  | .condition _ _ | .verbatim _ _ _ | .groupBy _ _ | .sortBy _ _ _ _ => some .filter
  | .project _ _ | .projectText _ _ | .projectAll | .clearProjections => some .projection
  | .assign _ _ _ | .clearAssignments => some .assignment
  | .supply _ _ _ => some .row
  | .clearArgs => some .args
  | .clear => none

namespace Step

mutual

/-- The part that a step works on, if it constructs something and works on a single one. -/
def part? : Step → Option Part
  | .call c => c.part?
  | .group _ body _ _ => if allOn .filter body then some .filter else none
  | .render _ _ _ | .ask _ | .refused _ => none

/-- All steps work on the part. -/
def allOn (p : Part) : List Step → Bool
  | [] => true
  | s :: rest => s.part? == some p && allOn p rest

end

/-- The step works on the part. -/
def isOn (p : Part) (s : Step) : Bool := s.part? == some p

/-- The replies to those steps of a script that work on a part. -/
def repliesOn (p : Part) (steps : List Step) (replies : List Reply) : List Reply :=
  ((steps.zip replies).filter fun answered => answered.1.isOn p).map Prod.snd

theorem repliesOn_cons (p : Part) (s : Step) (steps : List Step) (r : Reply)
    (replies : List Reply) :
    repliesOn p (s :: steps) (r :: replies) =
      if s.isOn p then r :: repliesOn p steps replies else repliesOn p steps replies := by
  unfold repliesOn
  cases h : s.isOn p <;> simp [h]

/-- Told to go on, a script gets a reply to every step. -/
theorem length_reply_runAll {σ : Type} [Builder σ] : ∀ (steps : List Step) (b : σ),
    (runAll true steps b).reply.length = steps.length
  | [], _ => rfl
  | s :: rest, b => by simp [runAll, length_reply_runAll rest]

end Step

/-- A run with another command at its end. -/
def Run.mapAfter {σ τ ρ : Type} (f : σ → τ) (r : Run σ ρ) : Run τ ρ :=
  ⟨r.reply, r.events, f r.after⟩

/-- A family whose commands consist of parts. -/
class Partitioned (σ : Type) [Builder σ] where
  /-- The command with nothing in it but one of its parts. -/
  only : Part → σ → σ
  ext : ∀ {b b' : σ}, (∀ p, only p b = only p b') → b = b'
  call_own : ∀ {p : Part} {c : Call}, c.part? = some p → ∀ b : σ,
    Builder.call c (only p b) = ((Builder.call c b).1, only p (Builder.call c b).2)
  call_other : ∀ {p q : Part} {c : Call}, c.part? = some p → q ≠ p → ∀ b : σ,
    only q (Builder.call c b).2 = only q b
  openGroup_own : ∀ (k : Connective) (b : σ), Builder.openGroup k (only .filter b) =
    (Builder.openGroup k b).map fun opening => (opening.1, only .filter opening.2)
  openGroup_other : ∀ {q : Part}, q ≠ .filter → ∀ {k : Connective} {b opened : σ}
    {mark : GroupMark}, Builder.openGroup k b = .ok (mark, opened) → only q opened = only q b
  closeGroup_own : ∀ (mark : GroupMark) (verdict : Except CommandError Unit) (b : σ),
    Builder.closeGroup mark verdict (only .filter b) =
      ((Builder.closeGroup mark verdict b).1, only .filter (Builder.closeGroup mark verdict b).2)
  closeGroup_other : ∀ {q : Part}, q ≠ .filter → ∀ (mark : GroupMark)
    (verdict : Except CommandError Unit) (b : σ),
    only q (Builder.closeGroup mark verdict b).2 = only q b

namespace Step
variable {σ : Type} [Builder σ] [Partitioned σ]
open Partitioned (only)

/-- A group that works on a part works on the filter, and so do its steps. -/
theorem allOn_of_part?_group {p : Part} {k : Connective} {body : List Step} {goOn : Bool}
    {verdict : Except CommandError Unit} (h : (group k body goOn verdict).part? = some p) :
    p = .filter ∧ allOn .filter body = true := by
  simp only [part?] at h
  split at h
  · rename_i hbody
    exact ⟨(Option.some.inj h).symm, hbody⟩
  · cases h

theorem allOn_cons {p : Part} {s : Step} {rest : List Step} (h : allOn p (s :: rest) = true) :
    s.part? = some p ∧ allOn p rest = true := by
  simpa [allOn] using h

mutual

/-- A step sees nothing but the part that it works on. -/
theorem run_own {p : Part} : ∀ {s : Step}, s.part? = some p → ∀ b : σ,
    s.run (only p b) = (s.run b).mapAfter (only p)
  | .call c, h, b => by
    have hc : c.part? = some p := by simpa only [part?] using h
    simp only [run, Run.mapAfter, Partitioned.call_own hc]
  | .group k body goOn verdict, h, b => by
    obtain ⟨rfl, hbody⟩ := allOn_of_part?_group h
    have hopen := Partitioned.openGroup_own k b
    cases hown : Builder.openGroup k b with
    | error e =>
      rw [hown] at hopen
      simp only [run, hopen, hown, Except.map, Run.mapAfter]
    | ok opening =>
      rw [hown] at hopen
      -- what is done inside works on the filter, too, and sees no more of the command
      simp only [run, hopen, hown, Except.map, Run.mapAfter, runAll_own goOn hbody,
        Partitioned.closeGroup_own]
  | .render _ _ _, h, _ | .ask _, h, _ | .refused _, h, _ => by simp [part?] at h

theorem runAll_own {p : Part} (goOn : Bool) : ∀ {steps : List Step}, allOn p steps = true →
    ∀ b : σ, runAll goOn steps (only p b) = (runAll goOn steps b).mapAfter (only p)
  | [], _, _ => rfl
  | s :: rest, h, b => by
    obtain ⟨hs, hrest⟩ := allOn_cons h
    simp only [runAll, run_own hs, Run.mapAfter, runAll_own goOn hrest]
    split <;> rfl

end

mutual

/-- A step leaves the parts alone that it does not work on. -/
theorem run_other {p q : Part} (hq : q ≠ p) : ∀ {s : Step}, s.part? = some p → ∀ b : σ,
    only q (s.run b).after = only q b
  | .call c, h, b => Partitioned.call_other (by simpa only [part?] using h) hq b
  | .group k body goOn verdict, h, b => by
    obtain ⟨rfl, hbody⟩ := allOn_of_part?_group h
    cases hopen : Builder.openGroup k b with
    | error e => simp only [run, hopen]
    | ok opening =>
      obtain ⟨mark, opened⟩ := opening
      simp only [run, hopen]
      rw [Partitioned.closeGroup_other hq, runAll_other hq goOn hbody,
        Partitioned.openGroup_other hq hopen]
  | .render _ _ _, h, _ | .ask _, h, _ | .refused _, h, _ => by simp [part?] at h

theorem runAll_other {p q : Part} (hq : q ≠ p) (goOn : Bool) : ∀ {steps : List Step},
    allOn p steps = true → ∀ b : σ, only q (runAll goOn steps b).after = only q b
  | [], _, _ => rfl
  | s :: rest, h, b => by
    obtain ⟨hs, hrest⟩ := allOn_cons h
    simp only [runAll]
    split
    · exact run_other hq hs b
    · rw [runAll_other hq goOn hrest, run_other hq hs]

end

/-- As far as one part goes, a script is the same as the script of the steps that work on it: these
get the same replies from the part alone, and leave it behind as the whole script does. -/
theorem runAll_filter (p : Part) : ∀ (steps : List Step), (∀ s ∈ steps, s.part?.isSome) →
    ∀ b : σ,
      (runAll true (steps.filter (isOn p)) (only p b)).reply =
          repliesOn p steps (runAll true steps b).reply ∧
        (runAll true (steps.filter (isOn p)) (only p b)).after =
          only p (runAll true steps b).after
  | [], _, _ => ⟨rfl, rfl⟩
  | s :: rest, h, b => by
    obtain ⟨hs, hrest⟩ := List.forall_mem_cons.1 h
    obtain ⟨hreply, hafter⟩ := runAll_filter p rest hrest (s.run b).after
    obtain ⟨own, hown⟩ := Option.isSome_iff_exists.1 hs
    by_cases hp : own = p
    · subst hp
      have hon : s.isOn own = true := by simp [isOn, hown]
      simp only [List.filter_cons_of_pos hon, runAll, run_own hown, Run.mapAfter,
        repliesOn_cons, hon, hreply, hafter, Bool.not_true, Bool.false_and, if_true,
        Bool.false_eq_true, if_false, and_self]
    · -- a step on another part changes nothing that the steps on this one see
      have hoff : s.isOn p = false := by simp [isOn, hown, hp]
      rw [List.filter_cons_of_neg (by simp [hoff]), ← run_other (Ne.symm hp) hown b]
      simp only [runAll, repliesOn_cons, hoff, hreply, hafter, Bool.not_true, Bool.false_and,
        Bool.false_eq_true, if_false, and_self]

end Step

end DataCommand
