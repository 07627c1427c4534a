import DataCommand.Builder.Script
import DataCommand.SearchCommand.Endpoint
import Mathlib.Data.List.Forall2

/-!
Families side by side. A relation between the commands of two families that calls and requests
preserve, and under which they succeed and fail alike, makes whole scripts succeed and fail alike.
Requests are in the dialect of the family, so the two scripts need not be the same.
-/

namespace DataCommand

theorem Reply.isSome_error?_ofResult (x : Except CommandError Unit) :
    (Reply.ofResult x).error?.isSome = !x.isOk := by
  cases x <;> rfl

theorem Reply.error?_ofStatement (x : Except CommandError Statement) :
    (Reply.ofStatement x).error? = (Reply.ofResult (x.map fun _ => ())).error? := by
  cases x <;> rfl

/-- A construction call that all families know. -/
def Call.isShared : Call → Bool
  | .verbatim _ _ _ | .projectText _ _ | .groupBy _ _ => false
  | _ => true

/-- The target after a call. -/
def Call.retarget (t : Target) : Call → Target
  | .setTarget target => target
  | .clear => {}
  | _ => t

namespace Step

/-- The same step in two families: the same call, or the same request, each in its dialect. -/
inductive Counterpart : Step → Step → Prop where
  | call {c : Call} (hc : c.isShared = true) : Counterpart (.call c) (.call c)
  | render (request : Request) (d d' : Dialect) (quote quote' : Bool) :
      Counterpart (.render request d quote) (.render request d' quote')

/-- The target after a step. -/
def retarget (t : Target) : Step → Target
  | .call c => c.retarget t
  | _ => t

/-- Wherever a script makes a request, its target by then names a valid index. -/
def namesIndex (t : Target) : List Step → Bool
  | [] => true
  | .render _ _ _ :: rest => t.index.isOk && namesIndex t rest
  | s :: rest => namesIndex (s.retarget t) rest

/-- Replies to a step in two families agree: a call has failed in both or in neither, a request has
failed in both with the same error or in neither. -/
def Agree : Step → Reply → Reply → Prop
  | .render _ _ _, r, r' => r.error? = r'.error?
  | _, r, r' => r.error?.isSome = r'.error?.isSome

/-- The replies to each step of a script agree. -/
inductive AllAgree : List Step → List Reply → List Reply → Prop where
  | nil : AllAgree [] [] []
  | cons {s : Step} {r r' : Reply} {steps : List Step} {replies replies' : List Reply}
      (head : s.Agree r r') (tail : AllAgree steps replies replies') :
      AllAgree (s :: steps) (r :: replies) (r' :: replies')

theorem namesIndex_cons {t : Target} {s : Step} {rest : List Step}
    (h : namesIndex t (s :: rest) = true) : namesIndex (s.retarget t) rest = true := by
  cases s with
  | render => exact (Bool.and_eq_true_iff.1 h).2
  | _ => exact h

theorem namesIndex_take : ∀ (n : Nat) {t : Target} {steps : List Step},
    namesIndex t steps = true → namesIndex t (steps.take n) = true
  | 0, _, _, _ => rfl
  | _ + 1, _, [], _ => rfl
  | n + 1, t, s :: rest, h => by
    have hrest := namesIndex_take n (namesIndex_cons h)
    cases s with
    | render => exact Bool.and_eq_true_iff.2 ⟨(Bool.and_eq_true_iff.1 h).1, hrest⟩
    | _ => exact hrest

theorem Agree.join {s s' : Step} (hs : s.Counterpart s') {r r' r'' : Reply}
    (h : s.Agree r r') (h' : s.Agree r r'') : s'.Agree r' r'' := by
  cases hs <;> exact h.symm.trans h'

/-- What agrees with the same replies agrees with each other. -/
theorem AllAgree.join {steps steps' : List Step} (hsteps : List.Forall₂ Counterpart steps steps') :
    ∀ {replies replies' replies'' : List Reply}, AllAgree steps replies replies' →
      AllAgree steps replies replies'' → AllAgree steps' replies' replies'' := by
  induction hsteps with
  | nil =>
    intro _ _ _ h h'
    cases h
    cases h'
    exact .nil
  | cons hs _ ih =>
    intro _ _ _ h h'
    cases h with
    | cons head tail =>
      cases h' with
      | cons head' tail' => exact .cons (Agree.join hs head head') (ih tail tail')

end Step

section Families
variable {σ τ : Type} [Builder σ] [Builder τ]

/-- Two commands give the same answers about their projections. -/
structure SameProjection (b : σ) (b' : τ) : Prop where
  projects : ∀ column, Builder.projects b column = Builder.projects b' column
  projectsAny : Builder.projectsAny b = Builder.projectsAny b'
  selectsAll : Builder.selectsAll b = Builder.selectsAll b'

/-- Scripts in two families are accepted alike: their replies agree, and after any number of steps
the commands give the same answers about their projections. -/
structure AcceptedAlike (steps steps' : List Step) (b : σ) (b' : τ) : Prop where
  replies : Step.AllAgree steps (Step.runAll true steps b).reply
    (Step.runAll true steps' b').reply
  projection : ∀ n, SameProjection (Step.runAll true (steps.take n) b).after
    (Step.runAll true (steps'.take n) b').after

/-- What is accepted as in one family is accepted alike in two others. -/
theorem AcceptedAlike.join {υ : Type} [Builder υ] {steps steps' steps'' : List Step} {b : σ}
    {b' : τ} {b'' : υ} (hsteps : List.Forall₂ Step.Counterpart steps steps')
    (h : AcceptedAlike steps steps' b b') (h' : AcceptedAlike steps steps'' b b'') :
    AcceptedAlike steps' steps'' b' b'' where
  replies := Step.AllAgree.join hsteps h.replies h'.replies
  projection n :=
    { projects := fun column =>
        ((h.projection n).projects column).symm.trans ((h'.projection n).projects column)
      projectsAny := (h.projection n).projectsAny.symm.trans (h'.projection n).projectsAny
      selectsAll := (h.projection n).selectsAll.symm.trans (h'.projection n).selectsAll }

/-- A relation between commands with the same target that steps preserve, and under which they
succeed and fail alike. -/
structure Simulation (R : Target → σ → τ → Prop) : Prop where
  projection : ∀ {t : Target} {b : σ} {b' : τ}, R t b b' → SameProjection b b'
  call : ∀ {t : Target} {b : σ} {b' : τ}, R t b b' → ∀ {c : Call}, c.isShared = true →
    (Builder.call c b).1.isOk = (Builder.call c b').1.isOk ∧
      R (c.retarget t) (Builder.call c b).2 (Builder.call c b').2
  render : ∀ {t : Target} {b : σ} {b' : τ}, R t b b' → t.index.isOk = true →
    ∀ (request : Request) (d d' : Dialect) (quote quote' : Bool),
      ((Builder.render request d quote b).result.map fun _ => ()) =
          ((Builder.render request d' quote' b').result.map fun _ => ()) ∧
        R t (Builder.render request d quote b).after (Builder.render request d' quote' b').after

namespace Simulation
variable {R : Target → σ → τ → Prop} (S : Simulation R)
include S

theorem step {t : Target} {b : σ} {b' : τ} (h : R t b b') {s s' : Step} (hs : s.Counterpart s')
    {rest : List Step} (hindex : Step.namesIndex t (s :: rest) = true) :
    s.Agree (s.run b).reply (s'.run b').reply ∧
      R (s.retarget t) (s.run b).after (s'.run b').after := by
  cases hs with
  | @call c hc =>
    obtain ⟨hresult, hafter⟩ := S.call h hc
    exact ⟨by simp only [Step.run, Step.Agree, Reply.isSome_error?_ofResult, hresult], hafter⟩
  | render request d d' quote quote' =>
    have hvalid : t.index.isOk = true := (Bool.and_eq_true_iff.1 hindex).1
    obtain ⟨hresult, hafter⟩ := S.render h hvalid request d d' quote quote'
    exact ⟨by simp only [Step.run, Step.Agree, Reply.error?_ofStatement, hresult], hafter⟩

theorem run {steps steps' : List Step} (hsteps : List.Forall₂ Step.Counterpart steps steps') :
    ∀ {t : Target} {b : σ} {b' : τ}, R t b b' → Step.namesIndex t steps = true →
      Step.AllAgree steps (Step.runAll true steps b).reply (Step.runAll true steps' b').reply ∧
        R (steps.foldl Step.retarget t) (Step.runAll true steps b).after
          (Step.runAll true steps' b').after := by
  induction hsteps with
  | nil => exact fun h _ => ⟨.nil, h⟩
  | cons hs hrest ih =>
    intro t b b' h hindex
    obtain ⟨hreply, hafter⟩ := S.step h hs hindex
    obtain ⟨hreplies, hend⟩ := ih hafter (Step.namesIndex_cons hindex)
    exact ⟨.cons hreply hreplies, hend⟩

theorem acceptedAlike {t : Target} {b : σ} {b' : τ} (h : R t b b') {steps steps' : List Step}
    (hsteps : List.Forall₂ Step.Counterpart steps steps')
    (hindex : Step.namesIndex t steps = true) : AcceptedAlike steps steps' b b' :=
  ⟨(S.run hsteps h hindex).1, fun n => S.projection
    (S.run (List.forall₂_take n hsteps) h (Step.namesIndex_take n hindex)).2⟩

end Simulation

end Families

end DataCommand
