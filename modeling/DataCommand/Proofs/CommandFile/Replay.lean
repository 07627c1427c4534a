import DataCommand.Proofs.CommandFile.Rendering

/-!
Replaying the entries of a file. The entries can be replayed as calls without being made out first,
if something stands in for the fields that are missing. Where a file is made out as a plan nothing
has to stand in for a field at any depth, so that the replay is the plan, whatever would stand in;
and the command that runs the plan sees one call for each entry, in the order of the file, up to the
first call that fails.
-/

namespace DataCommand

/-! ### What a script calls -/

/-- A call on a command under construction. A group is one, apart from the calls in it. -/
inductive BuilderCall where
  | call (c : Call)
  | group (connective : Connective)

/-- What was called, and the error that came of it. -/
abbrev CallLog := List (BuilderCall × Option CommandError)

/-- The error of a group that does not come from something in it. -/
def ownError? (result : Except CommandError Unit) (inner : List Reply) : Option CommandError :=
  if (inner.findSome? Reply.error?).isSome then none else (Reply.ofResult result).error?

namespace Step

mutual

/-- What a step calls. -/
def builderCalls : Step → List BuilderCall
  | .call c => [.call c]
  | .group k body _ _ => .group k :: allBuilderCalls body
  | _ => []

def allBuilderCalls : List Step → List BuilderCall
  | [] => []
  | s :: rest => s.builderCalls ++ allBuilderCalls rest

end

mutual

/-- What was called by a step with this reply. -/
def log : Step → Reply → CallLog
  | .call c, r => [(.call c, r.error?)]
  | .group k body _ _, .group result inner =>
    (.group k, ownError? result inner) :: logAll body inner
  | _, _ => []

/-- What was called by the steps that have got a reply. -/
def logAll : List Step → List Reply → CallLog
  | s :: steps, r :: replies => s.log r ++ logAll steps replies
  | _, _ => []

end

theorem allBuilderCalls_append (xs ys : List Step) :
    allBuilderCalls (xs ++ ys) = allBuilderCalls xs ++ allBuilderCalls ys := by
  induction xs with
  | nil => rfl
  | cons s rest ih => simp [allBuilderCalls, ih]

theorem allBuilderCalls_calls (calls : List Call) :
    allBuilderCalls (calls.map .call) = calls.map .call := by
  induction calls with
  | nil => rfl
  | cons c rest ih => simp [allBuilderCalls, builderCalls, ih]

theorem logAll_nil (steps : List Step) : logAll steps [] = [] := by
  cases steps <;> rfl

end Step

/-- The log consists of what was asked for, each call once and in order, up to one that fails. -/
def CallLog.Follows (log : CallLog) (asked : List BuilderCall) : Option CommandError → Prop
  | none => log = asked.map fun i => (i, none)
  | some e => ∃ before i after, asked = before ++ i :: after ∧
      log = (before.map fun i => (i, none)) ++ [(i, some e)]

namespace CallLog.Follows
variable {log log' : CallLog} {asked asked' : List BuilderCall} {failure : Option CommandError}

theorem single (i : BuilderCall) (failure : Option CommandError) :
    CallLog.Follows [(i, failure)] [i] failure := by
  cases failure with
  | none => rfl
  | some e => exact ⟨[], i, [], rfl, rfl⟩

/-- Nothing is called behind a failure. -/
theorem stop {e : CommandError} (h : CallLog.Follows log asked (some e))
    (behind : List BuilderCall) : CallLog.Follows log (asked ++ behind) (some e) := by
  obtain ⟨before, i, after, rfl, hlog⟩ := h
  exact ⟨before, i, after ++ behind, by simp, hlog⟩

theorem append (h : CallLog.Follows log asked none)
    (h' : CallLog.Follows log' asked' failure) :
    CallLog.Follows (log ++ log') (asked ++ asked') failure := by
  obtain rfl : log = asked.map fun i => (i, none) := h
  cases failure with
  | none =>
    obtain rfl : log' = asked'.map fun i => (i, none) := h'
    exact (List.map_append ..).symm
  | some e =>
    obtain ⟨before, i, after, rfl, rfl⟩ := h'
    exact ⟨asked ++ before, i, after, by simp, by simp⟩

end CallLog.Follows

/-- A family that takes conditions in some states only, and in which a group of conditions ends as
they are judged. -/
structure JudgesGroups (σ : Type) [Builder σ] (ready : σ → Prop) : Prop where
  opened : ∀ {k : Connective} {b opened : σ} {mark : GroupMark},
    Builder.openGroup k b = .ok (mark, opened) → ready opened
  condition : ∀ (k : Connective) (c : Condition) (b : σ), ready b →
    ready (Builder.call (.condition k c) b).2
  verbatim : ∀ (k : Connective) (text : String) (args : List Value) (b : σ), ready b →
    ready (Builder.call (.verbatim k text args) b).2
  closed : ∀ (mark : GroupMark) (verdict : Except CommandError Unit) (b : σ), ready b →
    (Builder.closeGroup mark verdict b).1 = verdict ∧ ready (Builder.closeGroup mark verdict b).2

theorem SqlCommand.judgesGroups : JudgesGroups SqlCommand fun b => b.stage = .filtering where
  opened {k b opened mark} h := by
    obtain ⟨-, e, hopen⟩ | ⟨hstage, hopen⟩ := b.openGroup_cases k
    · cases hopen.symm.trans h
    · cases hopen.symm.trans h
      exact hstage
  condition k c b hb := by
    show (b.restrict k c).2.stage = .filtering
    obtain ⟨e, h⟩ | ⟨-, -, h⟩ := b.restrict_cases k c <;> rw [h] <;> exact hb
  verbatim k text args b hb := by
    show (b.restrictVerbatim k text args).2.stage = .filtering
    obtain ⟨e, h⟩ | ⟨-, -, h⟩ := b.restrictVerbatim_cases k text args <;> rw [h] <;> exact hb
  closed mark verdict b hb := by
    refine ⟨closeGroup_fst mark verdict hb, ?_⟩
    show (b.closeGroup mark verdict).2.stage = .filtering
    rw [closeGroup_snd]
    split <;> exact hb

theorem DocumentCommand.judgesGroups : JudgesGroups DocumentCommand fun _ => True where
  opened _ := trivial
  condition _ _ _ _ := trivial
  verbatim _ _ _ _ _ := trivial
  closed _ _ _ _ := ⟨rfl, trivial⟩

theorem SearchCommand.judgesGroups : JudgesGroups SearchCommand fun _ => True where
  opened _ := trivial
  condition _ _ _ _ := trivial
  verbatim _ _ _ _ _ := trivial
  closed _ _ _ _ := ⟨rfl, trivial⟩

namespace Step
variable {σ : Type} [Builder σ]

/-- Wherever the step is run, its log follows what it calls. -/
def Logged (σ : Type) [Builder σ] (s : Step) : Prop :=
  ∀ b : σ, CallLog.Follows (s.log (s.run b).reply) s.builderCalls (s.run b).reply.error?

theorem logged_call (c : Call) : Logged σ (.call c) := fun b =>
  .single (.call c) (Reply.ofResult (Builder.call c b).1).error?

/-- The log of several steps follows what they call, up to the one that fails. -/
theorem logged_runAll : ∀ {steps : List Step}, (∀ s ∈ steps, Logged σ s) → ∀ b : σ,
    CallLog.Follows (logAll steps (runAll false steps b).reply) (allBuilderCalls steps)
      (failure? steps b)
  | [], _, _ => rfl
  | s :: rest, h, b => by
    obtain ⟨hs, hrest⟩ := List.forall_mem_cons.1 h
    have hhead := hs b
    rw [failure?_cons, runAll]
    cases herror : (s.run b).reply.error? with
    | some e =>
      rw [herror] at hhead
      simpa [logAll, logAll_nil, allBuilderCalls] using hhead.stop (allBuilderCalls rest)
    | none =>
      rw [herror] at hhead
      exact hhead.append (logged_runAll hrest (s.run b).after)

/-- A group that is judged by what is in it fails with that, and never by itself. -/
theorem ownError?_verdictOn (replies : List Reply) :
    ownError? (verdictOn false (.ok ()) replies) replies = none := by
  cases hfailure : replies.findSome? Reply.error? <;>
    simp [ownError?, verdictOn, hfailure, Reply.ofResult, Reply.error?]

theorem error?_verdictOn (replies : List Reply) :
    (Reply.group (verdictOn false (.ok ()) replies) replies).error? =
      replies.findSome? Reply.error? := by
  cases hfailure : replies.findSome? Reply.error? <;> simp [verdictOn, hfailure, Reply.error?]

/-- A group is logged if what is in it is, and if it ends as that is judged. -/
theorem logged_group {ready : σ → Prop} (hσ : JudgesGroups σ ready) (k : Connective)
    {body : List Step} (hlogged : ∀ s ∈ body, Logged σ s)
    (hready : ∀ b : σ, ready b → ready (runAll false body b).after) :
    Logged σ (.group k body false (.ok ())) := by
  intro b
  cases hopen : Builder.openGroup k b with
  | error e =>
    have hrun : (Step.group k body false (.ok ())).run b = ⟨.group (.error e) [], [], b⟩ := by
      simp only [run, hopen]
    rw [hrun, log, logAll_nil]
    exact (CallLog.Follows.single (.group k) (some e)).stop (allBuilderCalls body)
  | ok o =>
    obtain ⟨mark, opened⟩ := o
    have hclosed := (hσ.closed mark (verdictOn false (.ok ()) (runAll false body opened).reply) _
      (hready opened (hσ.opened hopen))).1
    have hreply : ((Step.group k body false (.ok ())).run b).reply =
        .group (verdictOn false (.ok ()) (runAll false body opened).reply)
          (runAll false body opened).reply := by
      simp only [run, hopen, hclosed]
    rw [hreply, log, ownError?_verdictOn, error?_verdictOn]
    exact (CallLog.Follows.single (.group k) none).append (logged_runAll hlogged opened)

theorem ready_runAll {ready : σ → Prop} : ∀ {steps : List Step},
    (∀ s ∈ steps, ∀ b : σ, ready b → ready (s.run b).after) →
    ∀ b : σ, ready b → ready (runAll false steps b).after
  | [], _, _, hb => hb
  | s :: rest, h, b, hb => by
    obtain ⟨hs, hrest⟩ := List.forall_mem_cons.1 h
    simp only [runAll]
    split
    · exact hs b hb
    · exact ready_runAll hrest _ (hs b hb)

end Step

/-! ### Entries without fallbacks -/

/-- The test that an entry spells out. Only the value of a comparison may be missing, which is null
then; a list is not empty and a range has both of its ends. -/
inductive FilterFields.Tests (f : FilterFields) (comparison : Comparison) : Test → Prop
  | oneOf (hlist : comparison.takesList = true) (hvalues : f.values ≠ []) :
      f.Tests comparison (.oneOf (comparison = .notInList) f.values f.valueTerm)
  | within {low high : Value} (hrange : comparison.takesRange = true) (hlow : f.low = some low)
      (hhigh : f.high = some high) :
      f.Tests comparison
        (.within (comparison = .notBetween) low high f.valueTerm f.valueTerm)
  | compare (hlist : comparison.takesList = false) (hrange : comparison.takesRange = false) :
      f.Tests comparison
        (.compare comparison (if comparison.testsNull then none else some (f.value.getD .null))
          f.valueTerm (if comparison.takesPattern then f.wildcards else .both))

/-- The call that an entry spells out: a test of a column that has a name, a text, or a group. -/
inductive FilterFields.Asks (f : FilterFields) : BuilderCall → Prop
  | test {comparison : Comparison} {column : String} {t : Test}
      (hkind : f.kind = .test comparison) (hcolumn : f.column = some column)
      (hname : Text.isBlank column = false) (ht : f.Tests comparison t) :
      f.Asks (.call (.condition f.connective { column, term := f.columnTerm, test := t }))
  | raw {text : String} (hkind : f.kind = .raw) (htext : f.text = some text) :
      f.Asks (.call (.verbatim f.connective text f.args))
  | group (hkind : f.kind = .group) : f.Asks (.group f.connective)

/-- The call that an entry of `select` spells out: a column or an expression, and not both. -/
inductive ProjectionEntry.Asks (entry : ProjectionEntry) : BuilderCall → Prop
  | column {column : String} (hcolumn : entry.column = some column) (hexpr : entry.expr = none) :
      entry.Asks (.call (.project column entry.term))
  | expr {expr : String} (hcolumn : entry.column = none) (hexpr : entry.expr = some expr) :
      entry.Asks (.call (.projectText expr entry.args))

namespace FilterEntry

mutual

/-- The fields of an entry and of those in it, in the order of the file. Entries count in groups
alone. -/
def visited : FilterEntry → List FilterFields
  | .mk f entries => f :: if f.kind = .group then allVisited entries else []

def allVisited : List FilterEntry → List FilterFields
  | [] => []
  | entry :: rest => entry.visited ++ allVisited rest

end

end FilterEntry

/-! ### The replay -/

/-- What stands in for fields that are missing. -/
structure Fallbacks where
  column : String := ""
  text : String := ""
  low : Value := .null
  high : Value := .null

section Replay
variable (fallbacks : Fallbacks)

/-- The test of an entry, whatever is missing. -/
def FilterFields.replayTest (f : FilterFields) (comparison : Comparison) : Test :=
  if comparison.takesList then .oneOf (comparison = .notInList) f.values f.valueTerm
  else if comparison.takesRange then
    .within (comparison = .notBetween) (f.low.getD fallbacks.low) (f.high.getD fallbacks.high)
      f.valueTerm f.valueTerm
  else
    .compare comparison (if comparison.testsNull then none else some (f.value.getD .null))
      f.valueTerm (if comparison.takesPattern then f.wildcards else .both)

namespace FilterEntry

mutual

/-- The step of an entry, whatever is missing. -/
def replay : FilterEntry → Step
  | .mk f entries => match f.kind with
    | .test comparison =>
      .call (.condition f.connective
        { column := f.column.getD fallbacks.column
          term := f.columnTerm
          test := f.replayTest fallbacks comparison })
    | .raw => .call (.verbatim f.connective (f.text.getD fallbacks.text) f.args)
    | .group => .group f.connective (replayAll entries) false (.ok ())

def replayAll : List FilterEntry → List Step
  | [] => []
  | entry :: rest => entry.replay :: replayAll rest

end

end FilterEntry

/-- The steps of an entry of `select`: a column counts more than an expression, and an entry without
either comes to nothing. -/
def ProjectionEntry.replay (entry : ProjectionEntry) : List Step :=
  match entry.column, entry.expr with
  | some column, _ => [.call (.project column entry.term)]
  | none, some expr => [.call (.projectText expr entry.args)]
  | none, none => []

end Replay

/-! ### The replay of a plan -/

namespace FilterFields
variable {f : FilterFields} {comparison : Comparison}

/-- A test that is made out is spelled out, so that it is replayed as it is. -/
theorem tests_of_test {t : Test} (h : f.test comparison = .ok t) (fallbacks : Fallbacks) :
    f.Tests comparison t ∧ f.replayTest fallbacks comparison = t := by
  unfold test at h
  unfold replayTest
  cases hlist : comparison.takesList with
  | true =>
    simp only [hlist, if_true] at h ⊢
    split at h
    · cases h
    · rename_i hvalues
      obtain rfl := Except.ok.inj h
      exact ⟨.oneOf hlist (by simpa using hvalues), rfl⟩
  | false =>
    cases hrange : comparison.takesRange with
    | true =>
      simp only [hlist, hrange, Bool.false_eq_true, if_false, if_true] at h ⊢
      split at h
      · rename_i low high hlow hhigh
        obtain rfl := Except.ok.inj h
        exact ⟨.within hrange hlow hhigh, by simp [hlow, hhigh]⟩
      · cases h
    | false =>
      simp only [hlist, hrange, Bool.false_eq_true, if_false] at h ⊢
      obtain rfl := Except.ok.inj h
      exact ⟨.compare hlist hrange, rfl⟩

/-- The same for the call of an entry that tests a column. -/
theorem asks_of_testStep {s : Step} (hkind : f.kind = .test comparison)
    (h : f.testStep comparison = .ok s) (fallbacks : Fallbacks) :
    ∃ c : Condition, s = .call (.condition f.connective c) ∧
      f.Asks (.call (.condition f.connective c)) ∧
      c = { column := f.column.getD fallbacks.column
            term := f.columnTerm
            test := f.replayTest fallbacks comparison } := by
  unfold testStep at h
  split at h
  · cases h
  · rename_i column hcolumn
    obtain ⟨hcolumn, hname⟩ := Text.unlessBlank_eq_some_iff.1 hcolumn
    obtain ⟨t, ht, rfl⟩ := Except.eq_of_map_eq_ok h
    obtain ⟨htests, hreplay⟩ := tests_of_test ht fallbacks
    exact ⟨_, rfl, .test hkind hcolumn hname htests, by simp [hcolumn, hreplay]⟩

end FilterFields

namespace FilterEntry

section Asked
variable (fallbacks : Fallbacks)

mutual

/-- An entry that is made out is replayed as its step, and each entry that is visited for it spells
out one of the calls. -/
theorem asks_step : ∀ (entry : FilterEntry) {s : Step}, entry.step = .ok s →
    entry.replay fallbacks = s ∧ List.Forall₂ FilterFields.Asks entry.visited s.builderCalls
  | .mk f entries, s, h => by
    cases hkind : f.kind with
    | test comparison =>
      simp only [step, hkind] at h
      obtain ⟨c, rfl, hasks, rfl⟩ := FilterFields.asks_of_testStep hkind h fallbacks
      simp only [replay, visited, hkind, reduceCtorEq, if_false, Step.builderCalls, true_and]
      exact .cons hasks .nil
    | raw =>
      simp only [step, hkind] at h
      split at h
      · cases h
      · rename_i text htext
        obtain rfl := Except.ok.inj h
        simp only [replay, visited, hkind, htext, Option.getD_some, reduceCtorEq, if_false,
          Step.builderCalls, true_and]
        exact .cons (.raw hkind htext) .nil
    | group =>
      simp only [step, hkind] at h
      split at h
      · cases h
      · rename_i body hbody
        obtain rfl := Except.ok.inj h
        obtain ⟨hreplay, hasked⟩ := asks_steps entries hbody
        simp only [replay, visited, hkind, hreplay, if_true, Step.builderCalls, true_and]
        exact .cons (.group hkind) hasked

theorem asks_steps : ∀ (entries : List FilterEntry) {body : List Step},
    steps entries = .ok body →
    replayAll fallbacks entries = body ∧
      List.Forall₂ FilterFields.Asks (allVisited entries) (Step.allBuilderCalls body)
  | [], body, h => by
    obtain rfl := Except.ok.inj h
    exact ⟨rfl, .nil⟩
  | entry :: rest, body, h => by
    obtain ⟨s, tail, hs, htail, rfl⟩ := steps_cons h
    obtain ⟨hreplay, hasked⟩ := asks_step entry hs
    obtain ⟨hreplayAll, haskedAll⟩ := asks_steps rest htail
    simp only [replayAll, allVisited, Step.allBuilderCalls, hreplay, hreplayAll, true_and]
    exact List.rel_append hasked haskedAll

end

end Asked

section Logged
variable {σ : Type} [Builder σ] {ready : σ → Prop}

mutual

/-- The step of an entry is logged as what it calls, at any depth. -/
theorem logged_step (hσ : JudgesGroups σ ready) : ∀ (entry : FilterEntry) {s : Step},
    entry.step = .ok s → Step.Logged σ s ∧ ∀ b : σ, ready b → ready (s.run b).after
  | .mk f entries, s, h => by
    obtain ⟨_, c, -, rfl, -⟩ | ⟨text, -, -, rfl⟩ | ⟨body, -, hbody, rfl⟩ := step_cases h
    · exact ⟨Step.logged_call _, fun b hb => hσ.condition f.connective c b hb⟩
    · exact ⟨Step.logged_call _, fun b hb => hσ.verbatim f.connective text f.args b hb⟩
    · have hinner := logged_steps hσ entries hbody
      have hready := Step.ready_runAll fun s hs => (hinner s hs).2
      refine ⟨Step.logged_group hσ f.connective (fun s hs => (hinner s hs).1) hready,
        fun b hb => ?_⟩
      cases hopen : Builder.openGroup f.connective b with
      | error e => simpa only [Step.run, hopen] using hb
      | ok o =>
        simp only [Step.run, hopen]
        exact (hσ.closed _ _ _ (hready _ (hσ.opened hopen))).2

theorem logged_steps (hσ : JudgesGroups σ ready) : ∀ (entries : List FilterEntry)
    {body : List Step}, steps entries = .ok body →
    ∀ s ∈ body, Step.Logged σ s ∧ ∀ b : σ, ready b → ready (s.run b).after
  | [], body, h => by
    obtain rfl := Except.ok.inj h
    simp
  | entry :: rest, body, h => by
    obtain ⟨s, tail, hs, htail, rfl⟩ := steps_cons h
    exact List.forall_mem_cons.2 ⟨logged_step hσ entry hs, logged_steps hσ rest htail⟩

end

end Logged

end FilterEntry

namespace CommandFile

/-- An entry of `select` that is made out spells out one call, and is replayed as that. -/
theorem asks_projection {entry : ProjectionEntry} {s : Step} (h : entry.step = .ok s) :
    ∃ c : Call, s = .call c ∧ entry.Asks (.call c) ∧ entry.replay = [.call c] := by
  unfold ProjectionEntry.step at h
  unfold ProjectionEntry.replay
  split at h
  · rename_i column hcolumn hexpr
    exact ⟨_, (Except.ok.inj h).symm, .column hcolumn hexpr, by simp [hcolumn]⟩
  · rename_i expr hcolumn hexpr
    exact ⟨_, (Except.ok.inj h).symm, .expr hcolumn hexpr, by simp [hcolumn, hexpr]⟩
  · cases h

theorem asks_projections : ∀ {entries : List ProjectionEntry} {steps : List Step},
    entries.mapM ProjectionEntry.step = .ok steps →
    ∃ calls : List Call, steps = calls.map .call ∧
      List.Forall₂ ProjectionEntry.Asks entries (calls.map .call) ∧
      entries.flatMap ProjectionEntry.replay = steps
  | [], steps, h => ⟨[], (Except.ok.inj h).symm, .nil, Except.ok.inj h⟩
  | entry :: rest, steps, h => by
    rw [List.mapM_cons] at h
    obtain ⟨s, hs, h⟩ := Except.exists_of_bind_eq_ok h
    obtain ⟨tail, htail, h⟩ := Except.exists_of_bind_eq_ok h
    obtain rfl := Except.ok.inj h
    obtain ⟨c, rfl, hasks, hreplay⟩ := asks_projection hs
    obtain ⟨calls, rfl, hasked, hreplayed⟩ := asks_projections htail
    exact ⟨c :: calls, rfl, .cons hasks hasked, by simp [hreplay, hreplayed]⟩

end CommandFile

/-- A command of the family that runs the plan is called as asked, up to the first call that fails.
-/
def Plan.Calls (σ : Type) [Builder σ] (p : Plan) (asked : List BuilderCall) : Prop :=
  ∀ b : σ, (Step.logAll p.steps (Step.runAll false p.steps b).reply).Follows asked
    (Step.failure? p.steps b)

/-- A plan calls what its steps call. -/
theorem Plan.calls_steps {σ : Type} [Builder σ] {ready : σ → Prop} (hσ : JudgesGroups σ ready)
    {file : CommandFile} {p : Plan} (h : file.plan = .ok p) :
    p.Calls σ (Step.allBuilderCalls p.steps) := by
  obtain ⟨projections, filter, hprojections, hfilter, -, -, hsteps, -⟩ :=
    CommandFile.exists_parts h
  obtain ⟨calls, rfl, -⟩ := CommandFile.exists_projections hprojections
  have hlogged := FilterEntry.logged_steps hσ file.filter hfilter
  refine Step.logged_runAll ?_
  rw [hsteps]
  simp only [CommandFile.trailing, List.forall_mem_cons, List.forall_mem_append,
    List.forall_mem_map]
  exact ⟨Step.logged_call _, ⟨fun _ _ => Step.logged_call _, fun s hs => (hlogged s hs).1⟩,
    ⟨⟨fun _ _ => Step.logged_call _, fun _ _ => Step.logged_call _⟩, fun _ _ => Step.logged_call _⟩,
    fun _ _ => Step.logged_call _⟩

/-- A file that is made out as a plan is replayed as its plan, whatever would stand in for missing
fields. Each entry of `select` spells out one call, and so does each entry of `where` that is
visited, at any depth; and a command that runs the plan is called so, in the order of the file and
once for each entry, up to the first call that fails. -/
theorem replay_needs_no_fallback {file : CommandFile} {p : Plan} (h : file.plan = .ok p) :
    (∀ fallbacks, p.steps = .call (.setTarget file.target) ::
      (file.projections.flatMap ProjectionEntry.replay ++
        FilterEntry.replayAll fallbacks file.filter ++ file.trailing)) ∧
    ∃ projected filtered,
      List.Forall₂ ProjectionEntry.Asks file.projections projected ∧
      List.Forall₂ FilterFields.Asks (FilterEntry.allVisited file.filter) filtered ∧
      let asked := .call (.setTarget file.target) ::
        (projected ++ filtered ++ Step.allBuilderCalls file.trailing)
      p.Calls SqlCommand asked ∧ p.Calls DocumentCommand asked ∧ p.Calls SearchCommand asked := by
  obtain ⟨projections, filter, hprojections, hfilter, -, -, hsteps, -⟩ :=
    CommandFile.exists_parts h
  obtain ⟨calls, rfl, hprojected, hreplayed⟩ := CommandFile.asks_projections hprojections
  have hentries := fun fallbacks => FilterEntry.asks_steps fallbacks file.filter hfilter
  refine ⟨fun fallbacks => by rw [hsteps, hreplayed, (hentries fallbacks).1], calls.map .call,
    Step.allBuilderCalls filter, hprojected, (hentries {}).2, ?_⟩
  have hasked : Step.allBuilderCalls p.steps = .call (.setTarget file.target) ::
      (calls.map .call ++ Step.allBuilderCalls filter ++ Step.allBuilderCalls file.trailing) := by
    rw [hsteps, Step.allBuilderCalls, Step.allBuilderCalls_append, Step.allBuilderCalls_append,
      Step.allBuilderCalls_calls]
    rfl
  intro asked
  rw [show asked = Step.allBuilderCalls p.steps from hasked.symm]
  exact ⟨Plan.calls_steps SqlCommand.judgesGroups h,
    Plan.calls_steps DocumentCommand.judgesGroups h,
    Plan.calls_steps SearchCommand.judgesGroups h⟩

/-- A file with a range and a blank text in a group. -/
def grouped : CommandFile := {
  target := { table := "t" }
  projections := [{ column := some "a" }]
  filter := [
    .mk { kind := .test .eq, column := some "a" } [],
    .mk { kind := .group } [
      .mk { kind := .test .between, column := some "b", low := some (.int 1),
            high := some (.int 2) } [],
      .mk { kind := .raw, text := some "" } []]] }

/-- The blank text is refused by the last one of the six calls. -/
theorem replay_needs_no_fallback_grouped :
    ∃ p asked, grouped.plan = .ok p ∧ asked.length = 6 ∧ p.Calls SqlCommand asked ∧
      Step.failure? p.steps ({} : SqlCommand) = some (.invalid .blankText) := by
  have hplan : grouped.plan = .ok _ := rfl
  obtain ⟨-, projected, filtered, hprojected, hfiltered, hcalls, -⟩ :=
    replay_needs_no_fallback hplan
  refine ⟨_, _, hplan, ?_, hcalls, rfl⟩
  have hone : projected.length = 1 := hprojected.length_eq.symm
  have hfour : filtered.length = 4 := hfiltered.length_eq.symm
  simp [hone, hfour, grouped, CommandFile.trailing, Step.allBuilderCalls]

end DataCommand
