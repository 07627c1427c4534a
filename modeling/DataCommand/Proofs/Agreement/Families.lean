import DataCommand.Dialect.Builtin
import DataCommand.Proofs.Agreement.Simulation
import DataCommand.Proofs.Filter.Refinement
import DataCommand.Proofs.Rendering

/-!
All families accept the same language. A relational command keeps its conditions as one flat list
with a flag, a document command as a list of criteria; one looks up its projections, the other keeps
them apart from the start; and they check in different order. Yet of the calls that both know they
take the same, and they render at the same time.
-/

namespace DataCommand

theorem Target.exists_endpoint {t : Target} (h : t.index.isOk = true) (layout : PathLayout)
    (operation : Operation) : ∃ e, t.endpoint layout operation = .ok e := by
  unfold endpoint
  cases hindex : t.index with
  | error e => simp [hindex, Except.isOk, Except.toBool] at h
  | ok index => exact ⟨_, rfl⟩

/-- Where the filter stands for an outline, a sort key is always taken. -/
theorem SqlCommand.sortBy_outline {b : SqlCommand} {o : Outline}
    (hb : b.filterState = o.filterState) (column : String) (term : Option String)
    (order : SortOrder) (nulls : NullsPlace) :
    ∃ filter place, b.sortBy column term order nulls =
      (.ok (), { b with filter, sortPlace := some place, stage := .ordering }) := by
  obtain ⟨hfilter, -, -, -, hsort⟩ := FilterState.mk.inj hb
  have hlist := Outline.withList_keyClause "ORDER BY"
    (o.conditionFragments ++ Outline.keyClause "GROUP BY" o.groupKeys) o.sortKeys
  change withList _ _ o.fragments = _ at hlist
  rw [← hsort, ← hfilter] at hlist
  simp only [sortBy, hlist, pushKey, Outline.pushAt_keyClause]
  exact ⟨_, _, rfl⟩

theorem SqlCommand.projects_cons (b : SqlCommand) (column : String) (term : Option String)
    (projections : List Fragment) (allFields : Bool) (other : String) :
    ({ b with projections, allFields, terms := (column, term) :: b.terms } : SqlCommand).projects
      other = (other == column || b.projects other) := by
  simp only [projects, List.lookup_cons]
  cases other == column <;> rfl

/-- A column that is projected already is not projected again. -/
theorem DocumentCommand.projections_project (c : DocumentCommand) (column : String)
    (term : Option String) :
    (c.projects column = true ∧ (c.project column term).projections = c.projections) ∨
      ∃ field, (c.project column term).projections = c.projections ++ [⟨column, field⟩] := by
  cases hold : c.projects column with
  | true => exact .inl ⟨rfl, by simp [project, hold]⟩
  | false =>
    refine .inr ⟨(Text.unlessBlank term).getD column, ?_⟩
    simp [project, hold]

theorem DocumentCommand.projects_project (c : DocumentCommand) (column : String)
    (term : Option String) (other : String) :
    (c.project column term).projects other = (other == column || c.projects other) := by
  obtain ⟨hold, h⟩ | ⟨field, h⟩ := c.projections_project column term
  · by_cases hother : other = column
    · simpa [projects, h, hother] using hold
    · simp [projects, h, hother]
  · simp only [projects, h, List.any_append, List.any_cons, List.any_nil, Bool.or_false]
    rw [Bool.or_comm, BEq.comm]

theorem DocumentCommand.isEmpty_projections_project (c : DocumentCommand) (column : String)
    (term : Option String) : (c.project column term).projections.isEmpty = false := by
  obtain ⟨hold, h⟩ | ⟨field, h⟩ := c.projections_project column term
  · cases hnone : c.projections with
    | nil => simp [projects, hnone] at hold
    | cons =>
      rw [h, hnone]
      rfl
  · simp [h]

/-- A relational command and a document command with the same target that take the same calls and
requests. -/
structure Matching (t : Target) (b : SqlCommand) (c : DocumentCommand) : Prop where
  outlined : ∃ o : Outline, b.filterState = o.filterState
  target : b.target = t
  target' : c.target = t
  stage : b.stage = c.stage
  conditions : b.hasConditions = !c.criteria.isEmpty
  projects : ∀ column, b.projects column = c.projects column
  projections : b.projections.isEmpty = c.projections.isEmpty
  allFields : b.allFields = c.allFields
  assignments : b.assignments = c.assignments
  row : b.row = c.row

theorem Matching.fresh (target : Target) : Matching target { target } { target } where
  outlined := ⟨{}, rfl⟩
  target := rfl
  target' := rfl
  stage := rfl
  conditions := rfl
  projects _ := rfl
  projections := rfl
  allFields := rfl
  assignments := rfl
  row := rfl

namespace Matching
variable {t : Target} {b : SqlCommand} {c : DocumentCommand} (h : Matching t b c)
include h

theorem permit (request : Request) : b.permit request = c.permit request := by
  simp only [SqlCommand.permit, DocumentCommand.permit, h.conditions, h.assignments, h.row]

theorem selectsAll : b.selectsAll = c.selectsAll := by
  simp only [SqlCommand.selectsAll, DocumentCommand.selectsAll, h.allFields, h.projections]

/-- The bound values play no part. -/
theorem withArgs (args args' : Arguments) : Matching t { b with args } { c with args := args' } :=
  { h with }

theorem restrict (k : Connective) (p : Condition) :
    (b.restrict k p).1.isOk = (c.restrict k p).1.isOk ∧
      Matching t (b.restrict k p).2 (c.restrict k p).2 := by
  have houtlined : ∃ o : Outline, (b.restrict k p).2.filterState = o.filterState := by
    obtain ⟨o, ho⟩ := h.outlined
    exact ⟨_, filterState_call_outline ho (.condition k p)⟩
  revert houtlined
  unfold SqlCommand.restrict DocumentCommand.restrict
  rw [h.stage]
  -- one looks at the stage first, the other at the condition; either failure changes nothing
  cases c.stage.admitsCondition with
  | error e => cases p.check <;> exact fun _ => ⟨rfl, h⟩
  | ok =>
    cases p.check with
    | error e => exact fun _ => ⟨rfl, h⟩
    | ok =>
      exact fun houtlined => ⟨rfl, { h with
        outlined := houtlined
        conditions := by simp [SqlCommand.append] }⟩

/-- A shared call succeeds on both or fails on both, and whatever it does keeps them together. -/
theorem call (label : String) {k : Call} (hk : k.isShared = true) :
    (SqlCommand.call k b).1.isOk = (DocumentCommand.call label k c).1.isOk ∧
      Matching (k.retarget t) (SqlCommand.call k b).2 (DocumentCommand.call label k c).2 := by
  have houtlined : ∃ o : Outline, (SqlCommand.call k b).2.filterState = o.filterState := by
    obtain ⟨o, ho⟩ := h.outlined
    exact ⟨_, filterState_call_outline ho k⟩
  -- only a sort key reads the filter; it finds its list there because of the outline
  cases k with
  | setTarget target => exact ⟨rfl, { h with target := rfl, target' := rfl }⟩
  | condition k p => exact h.restrict k p
  | project column term =>
    refine ⟨rfl, { h with
      projects := fun other => ?_
      projections := ?_
      allFields := rfl }⟩
    · rw [DocumentCommand.call, DocumentCommand.projects_project, ← h.projects]
      exact b.projects_cons column _ _ _ other
    · rw [DocumentCommand.call, DocumentCommand.isEmpty_projections_project]
      simp [SqlCommand.call]
  | projectAll =>
    exact ⟨rfl, { h with projects := fun _ => rfl, projections := rfl, allFields := rfl }⟩
  | clearProjections =>
    exact ⟨rfl, { h with projects := fun _ => rfl, projections := rfl, allFields := rfl }⟩
  | sortBy column term order nulls =>
    obtain ⟨o, ho⟩ := h.outlined
    obtain ⟨filter, place, hcall⟩ := SqlCommand.sortBy_outline ho column term order nulls
    rw [SqlCommand.call, hcall] at houtlined ⊢
    exact ⟨rfl, { h with outlined := houtlined, stage := rfl }⟩
  | assign column value term =>
    exact ⟨rfl, { h with
      assignments := congrArg (Assignment.push column value term) h.assignments }⟩
  | clearAssignments => exact ⟨rfl, { h with assignments := rfl }⟩
  | supply column value term =>
    simp only [SqlCommand.call, DocumentCommand.call, h.row]
    cases Assignment.pushNew column value term c.row with
    | error e => exact ⟨rfl, h⟩
    | ok row => exact ⟨rfl, { h with row := rfl }⟩
  | clearArgs => exact ⟨rfl, h.withArgs [] []⟩
  | clear => exact ⟨rfl, .fresh {}⟩
  | verbatim | projectText | groupBy => simp [Call.isShared] at hk

end Matching

theorem simulation_document :
    Simulation (σ := SqlCommand) (τ := DocumentCommand) Matching where
  projection h := ⟨h.projects, congrArg (! ·) h.projections, h.selectsAll⟩
  call h _ hc := h.call "document store" hc
  render {t b c} h _ request d d' quote quote' := by
    have hresult : ((b.render request d quote).result.map fun _ => ()) =
        ((c.render request d' quote').result.map fun _ => ()) := by
      rw [SqlCommand.render_result, DocumentCommand.render_result, h.permit request]
      cases c.permit request <;> rfl
    obtain ⟨args, hb⟩ := b.render_after request d quote
    obtain ⟨args', hc⟩ := c.render_after request d' quote'
    refine ⟨hresult, ?_⟩
    show Matching t (b.render request d quote).after (c.render request d' quote').after
    rw [hb, hc]
    exact h.withArgs args args'

/-- The layout of paths and the endpoint do not matter once the index name is valid. -/
theorem simulation_search :
    Simulation (σ := SqlCommand) (τ := SearchCommand) fun t b c => Matching t b c.content where
  projection h := ⟨h.projects, congrArg (! ·) h.projections, h.selectsAll⟩
  call h _ hc := h.call "search endpoint" hc
  render {t b c} h hindex request d d' quote quote' := by
    obtain ⟨e, he⟩ : ∃ e, c.endpoint request.operation = .ok e :=
      Target.exists_endpoint (by rw [h.target']; exact hindex) c.layout request.operation
    have hresult : ((b.render request d quote).result.map fun _ => ()) =
        ((c.render request d' quote').result.map fun _ => ()) := by
      rw [SqlCommand.render_result, SearchCommand.render_result, h.permit request, he]
      cases c.content.permit request <;> rfl
    obtain ⟨args, hb⟩ := b.render_after request d quote
    obtain ⟨args', hc⟩ := c.render_after request d' quote'
    refine ⟨hresult, ?_⟩
    show Matching t (b.render request d quote).after (c.render request d' quote').after.content
    rw [hb, hc]
    exact h.withArgs args args'

/-- One script of the calls that all families know, made in each family with requests in its own
dialects, is accepted alike by all of them: every call succeeds in all families or in none, every
request is answered in all or fails in all with the same error, and after each step the questions
about the projections have the same answers. All that the search family asks for on top is a valid
index name in the target of a request. -/
theorem families_accept_alike {relational documents searches : List Step} (target : Target)
    (layout : PathLayout) (hdocuments : List.Forall₂ Step.Counterpart relational documents)
    (hsearches : List.Forall₂ Step.Counterpart relational searches)
    (hindex : Step.namesIndex target relational = true) :
    AcceptedAlike relational documents ({ target } : SqlCommand) ({ target } : DocumentCommand) ∧
    AcceptedAlike relational searches ({ target } : SqlCommand)
      ({ content := { target }, layout } : SearchCommand) ∧
    AcceptedAlike documents searches ({ target } : DocumentCommand)
      ({ content := { target }, layout } : SearchCommand) := by
  have hdocument : AcceptedAlike relational documents ({ target } : SqlCommand)
      ({ target } : DocumentCommand) :=
    simulation_document.acceptedAlike (.fresh target) hdocuments hindex
  have hsearch : AcceptedAlike relational searches ({ target } : SqlCommand)
      ({ content := { target }, layout } : SearchCommand) :=
    simulation_search.acceptedAlike (.fresh target) hsearches hindex
  exact ⟨hdocument, hsearch, hdocument.join hdocuments hsearch⟩

/-- A condition that comes after a sort key, an update that assigns nothing, a column that is
supplied twice, and a deletion after a reset. -/
def failingScript (d : Dialect) : List Step := [
  .call (.condition {} ⟨"a", none, .operand .eq (.int 1)⟩),
  .call (.sortBy "a" none .default .default),
  .call (.condition {} ⟨"b", none, .operand .eq (.int 2)⟩),
  .render (.update false) d false,
  .call (.supply "a" (.int 1) none),
  .call (.supply "a" (.int 2) none),
  .call .clear,
  .call (.setTarget { table := "t" }),
  .render (.delete false) d true]

theorem families_accept_alike_failingScript :
    Step.namesIndex { table := "t" } (failingScript .standard) = true ∧
      (Step.runAll true (failingScript .standard)
          ({ target := { table := "t" } } : SqlCommand)).reply.map Reply.error? =
        [none, none, some (.outOfOrder "condition" "ORDER BY"), some (.invalid .nothingAssigned),
          none, some (.invalid (.suppliedTwice "a")), none, none, some (.unfiltered "DELETE")] ∧
      AcceptedAlike (failingScript .mongo) (failingScript .elastic)
        ({ target := { table := "t" } } : DocumentCommand)
        ({ content := { target := { table := "t" } }, layout := .typeless } : SearchCommand) := by
  have hcounterpart : ∀ d, List.Forall₂ Step.Counterpart (failingScript .standard)
      (failingScript d) := fun _ =>
    .cons (.call rfl) <| .cons (.call rfl) <| .cons (.call rfl) <| .cons (.render ..) <|
    .cons (.call rfl) <| .cons (.call rfl) <| .cons (.call rfl) <| .cons (.call rfl) <|
    .cons (.render ..) .nil
  have hindex : Step.namesIndex { table := "t" } (failingScript .standard) = true := by
    decide +kernel
  exact ⟨hindex, by rfl,
    (families_accept_alike { table := "t" } .typeless (hcounterpart .mongo)
      (hcounterpart .elastic) hindex).2.2⟩

end DataCommand
