import DataCommand.CommandFile.Plan
import DataCommand.Proofs.Agreement.Families
import DataCommand.Proofs.Filter.Rollback

/-!
Filling a relational command from the entries of a file. The steps stop at the first one that fails.
Entries that were made out as steps are taken by the command, whatever came before them in the order
of a file, with two exceptions: a text in the words of the caller may be blank, and a row may name a
column again.
-/

namespace DataCommand

/-! ### Scripts that stop at a failure -/

namespace Step
variable {σ : Type} [Builder σ]

/-- The error at which some steps stop. -/
def failure? (steps : List Step) (b : σ) : Option CommandError :=
  (runAll false steps b).reply.findSome? Reply.error?

/-- No step fails, and `after` is the command behind the last one. -/
structure Passes (steps : List Step) (b after : σ) : Prop where
  failure : failure? steps b = none
  after : (runAll false steps b).after = after

theorem failure?_cons (s : Step) (rest : List Step) (b : σ) :
    failure? (s :: rest) b = (s.run b).reply.error?.or (failure? rest (s.run b).after) := by
  unfold failure?
  rw [runAll]
  cases herror : (s.run b).reply.error? <;> simp [herror]

theorem Passes.nil (b : σ) : Passes [] b b := ⟨rfl, rfl⟩

theorem Passes.cons {s : Step} {rest : List Step} {b after : σ}
    (hs : (s.run b).reply.error? = none) (hrest : Passes rest (s.run b).after after) :
    Passes (s :: rest) b after := by
  refine ⟨by rw [failure?_cons, hs, hrest.failure]; rfl, ?_⟩
  rw [runAll, hs]
  exact hrest.after

theorem Passes.of_cons {s : Step} {rest : List Step} {b after : σ}
    (h : Passes (s :: rest) b after) :
    (s.run b).reply.error? = none ∧ Passes rest (s.run b).after after := by
  obtain ⟨hfailure, hafter⟩ := h
  rw [failure?_cons, Option.or_eq_none_iff] at hfailure
  rw [runAll, hfailure.1] at hafter
  exact ⟨hfailure.1, hfailure.2, hafter⟩

/-- Behind steps that have passed, the next ones begin with the command that those have left. -/
theorem Passes.run_append {xs : List Step} {b mid : σ} (h : Passes xs b mid) (ys : List Step) :
    failure? (xs ++ ys) b = failure? ys mid ∧
      (runAll false (xs ++ ys) b).after = (runAll false ys mid).after := by
  induction xs generalizing b with
  | nil =>
    obtain rfl := h.after
    exact ⟨rfl, rfl⟩
  | cons s rest ih =>
    obtain ⟨hs, hrest⟩ := h.of_cons
    obtain ⟨hfailure, hafter⟩ := ih hrest
    rw [List.cons_append, failure?_cons, runAll, hs]
    exact ⟨hfailure, hafter⟩

theorem Passes.append {xs ys : List Step} {b mid after : σ} (h : Passes xs b mid)
    (h' : Passes ys mid after) : Passes (xs ++ ys) b after := by
  obtain ⟨hfailure, hafter⟩ := h.run_append ys
  exact ⟨hfailure.trans h'.failure, hafter.trans h'.after⟩

/-- A step that fails is the last one. -/
theorem failure?_append_of_failed {xs : List Step} {b : σ} {e : CommandError}
    (h : failure? xs b = some e) (ys : List Step) : failure? (xs ++ ys) b = some e := by
  induction xs generalizing b with
  | nil => simp [failure?, runAll] at h
  | cons s rest ih =>
    rw [List.cons_append, failure?_cons]
    rw [failure?_cons] at h
    cases hs : (s.run b).reply.error? with
    | some e' => simpa [hs] using h
    | none =>
      rw [hs, Option.none_or] at h
      simpa [hs] using ih h

/-- Calls pass that are all taken wherever `P` holds, and that preserve it. -/
theorem exists_passes_calls {α : Type} {P : σ → Prop} (call : α → Call) : ∀ xs : List α,
    (∀ x ∈ xs, ∀ b, P b → (Builder.call (call x) b).1 = .ok () ∧ P (Builder.call (call x) b).2) →
    ∀ {b : σ}, P b → ∃ after, Passes (xs.map fun x => .call (call x)) b after ∧ P after
  | [], _, b, hb => ⟨b, .nil b, hb⟩
  | x :: rest, h, b, hb => by
    obtain ⟨hx, hafter⟩ := h x (by simp) b hb
    obtain ⟨after, hpasses, hP⟩ :=
      exists_passes_calls call rest (fun y hy => h y (List.mem_cons_of_mem x hy)) hafter
    exact ⟨after, .cons (by simp [run, hx, Reply.ofResult, Reply.error?]) hpasses, hP⟩

end Step

/-! ### Conditions -/

namespace FilterEntry

mutual

/-- The entry is a blank text in the words of the caller, or a group with one in it. -/
def holdsBlankText : FilterEntry → Bool
  | .mk f entries => match f.kind with
    | .test _ => false
    | .raw => f.text.any Text.isBlank
    | .group => anyHoldsBlankText entries

def anyHoldsBlankText : List FilterEntry → Bool
  | [] => false
  | entry :: rest => entry.holdsBlankText || anyHoldsBlankText rest

end

mutual

/-- The entry is a condition, or a group with one in it. -/
def isEffective : FilterEntry → Bool
  | .mk f entries => match f.kind with
    | .test _ | .raw => true
    | .group => anyIsEffective entries

def anyIsEffective : List FilterEntry → Bool
  | [] => false
  | entry :: rest => entry.isEffective || anyIsEffective rest

end

end FilterEntry

/-- A test with the operands that its comparison needs is a condition that a command takes. -/
theorem FilterFields.exists_condition {f : FilterFields} {comparison : Comparison} {s : Step}
    (h : f.testStep comparison = .ok s) :
    ∃ c : Condition, s = .call (.condition f.connective c) ∧ c.fault? = none := by
  unfold testStep at h
  split at h
  · cases h
  rename_i column _
  obtain ⟨t, ht, rfl⟩ := Except.eq_of_map_eq_ok h
  refine ⟨_, rfl, ?_⟩
  unfold FilterFields.test at ht
  split at ht
  · split at ht
    · cases ht
    · rename_i hvalues
      obtain rfl := Except.ok.inj ht
      simpa [Condition.fault?] using hvalues
  rename_i hlist
  split at ht
  · split at ht
    · obtain rfl := Except.ok.inj ht
      rfl
    · cases ht
  rename_i hrange
  obtain rfl := Except.ok.inj ht
  simp only [Condition.fault?, hlist, hrange]
  cases comparison.testsNull <;> simp

namespace FilterEntry

/-- The step of an entry is a condition, a text, or a group of the steps of its entries. -/
theorem step_cases {f : FilterFields} {entries : List FilterEntry} {s : Step}
    (h : (FilterEntry.mk f entries).step = .ok s) :
    (∃ comparison c, f.kind = .test comparison ∧ s = .call (.condition f.connective c) ∧
      c.fault? = none) ∨
    (∃ text, f.kind = .raw ∧ f.text = some text ∧ s = .call (.verbatim f.connective text f.args)) ∨
    ∃ body, f.kind = .group ∧ steps entries = .ok body ∧
      s = .group f.connective body false (.ok ()) := by
  unfold step at h
  split at h
  · rename_i comparison hkind
    obtain ⟨c, hs, hc⟩ := f.exists_condition h
    exact .inl ⟨comparison, c, hkind, hs, hc⟩
  · rename_i hkind
    split at h
    · cases h
    · rename_i text htext
      exact .inr (.inl ⟨text, hkind, htext, (Except.ok.inj h).symm⟩)
  · rename_i hkind
    split at h
    · cases h
    · rename_i body hbody
      exact .inr (.inr ⟨body, hkind, hbody, (Except.ok.inj h).symm⟩)

theorem steps_cons {entry : FilterEntry} {rest : List FilterEntry} {body : List Step}
    (h : steps (entry :: rest) = .ok body) :
    ∃ s tail, entry.step = .ok s ∧ steps rest = .ok tail ∧ body = s :: tail := by
  unfold steps at h
  split at h
  · cases h
  · rename_i s hs
    split at h
    · cases h
    · rename_i tail htail
      exact ⟨s, tail, hs, htail, (Except.ok.inj h).symm⟩

mutual

/-- The step of an entry is about conditions alone. -/
theorem conditional_step : ∀ (entry : FilterEntry) {s : Step}, entry.step = .ok s →
    s.keyless = true ∧ s.filters = true
  | .mk f entries, s, h => by
    obtain ⟨_, c, -, rfl, -⟩ | ⟨text, -, -, rfl⟩ | ⟨body, -, hbody, rfl⟩ := step_cases h
    · exact ⟨rfl, rfl⟩
    · exact ⟨rfl, rfl⟩
    · exact conditional_steps entries hbody

theorem conditional_steps : ∀ (entries : List FilterEntry) {body : List Step},
    steps entries = .ok body → Step.allKeyless body = true ∧ Step.allFilter body = true
  | [], body, h => by
    obtain rfl := Except.ok.inj h
    exact ⟨rfl, rfl⟩
  | entry :: rest, body, h => by
    obtain ⟨s, tail, hs, htail, rfl⟩ := steps_cons h
    have hhead := conditional_step entry hs
    have hrest := conditional_steps rest htail
    simp [Step.allKeyless, Step.allFilter, hhead, hrest]

end

end FilterEntry

/-- What comes of entries on a level, if some text in them is `blank` and some condition
`effective`: the failure, and what is added to the level if there is none. -/
structure Fills (blank effective : Bool) (failure : Option CommandError)
    (added : List Restriction) : Prop where
  failure : failure = if blank then some (.invalid .blankText) else none
  added : blank = false → added.isEmpty = !effective

/-- A group comes to its level as its contents come to theirs. -/
theorem Fills.group {blank effective : Bool} {body : List Step} {b : SqlCommand} {k : Connective}
    {inner : List Restriction}
    (h : Fills blank effective (Step.failure? body b) inner) :
    let result := verdictOn false (.ok ()) (Step.runAll false body b).reply
    Fills blank effective (Reply.group result (Step.runAll false body b).reply).error?
      (if result.isOk && !inner.isEmpty then [.group k inner] else []) := by
  intro result
  cases blank with
  | true =>
    have hfailure : (Step.runAll false body b).reply.findSome? Reply.error? =
      some (.invalid .blankText) := h.failure
    have hresult : result = .error (.invalid .blankText) := by simp [result, verdictOn, hfailure]
    rw [hresult]
    exact ⟨rfl, fun h => by cases h⟩
  | false =>
    have hfailure : (Step.runAll false body b).reply.findSome? Reply.error? = none := h.failure
    have hresult : result = .ok () := by simp [result, verdictOn, hfailure]
    rw [hresult]
    refine ⟨rfl, fun _ => ?_⟩
    rw [← h.added rfl]
    cases hempty : inner.isEmpty <;> simp [Except.isOk, Except.toBool]

/-- What comes of an entry and of those behind it. -/
theorem Fills.cons {blank effective blank' effective' : Bool} {s : Step} {tail : List Step}
    {b : SqlCommand}
    (h : Fills blank effective (s.run b).reply.error? (Restriction.accepted s (s.run b).reply))
    (h' : Fills blank' effective' (Step.failure? tail (s.run b).after)
      (Restriction.acceptedAll tail (Step.runAll false tail (s.run b).after).reply)) :
    Fills (blank || blank') (effective || effective') (Step.failure? (s :: tail) b)
      (Restriction.acceptedAll (s :: tail) (Step.runAll false (s :: tail) b).reply) := by
  cases blank with
  | true => exact ⟨by rw [Step.failure?_cons, h.failure]; rfl, fun h => by cases h⟩
  | false =>
    have hs : (s.run b).reply.error? = none := h.failure
    refine ⟨by rw [Step.failure?_cons, hs]; exact h'.failure, fun hblank => ?_⟩
    rw [Bool.not_or, ← h.added rfl, ← h'.added hblank]
    simp only [Step.runAll, hs, Option.isSome_none, Bool.and_false, Bool.false_eq_true, if_false,
      Restriction.acceptedAll]
    cases Restriction.accepted s (s.run b).reply <;> rfl

namespace FilterEntry

mutual

/-- The step of an entry comes to a level as the entry says. -/
theorem run_step : ∀ (entry : FilterEntry) {s : Step}, entry.step = .ok s →
    ∀ {b : SqlCommand} {base : List Fragment} {had : Bool} {members : List Restriction},
      opensLevel base → b.filterState = .level base had members →
      Fills entry.holdsBlankText entry.isEffective (s.run b).reply.error?
        (Restriction.accepted s (s.run b).reply)
  | .mk f entries, s, h, b, base, had, members, hbase, hb => by
    have hstage : b.stage = .filtering := (FilterState.mk.inj hb).2.2.1
    have hadmits : b.stage.admitsCondition = .ok () := (Stage.admitsCondition_eq_ok_iff _).2 hstage
    obtain ⟨_, c, hkind, rfl, hc⟩ | ⟨text, hkind, htext, rfl⟩ | ⟨body, hkind, hbody, rfl⟩ :=
      step_cases h
    · have hcall : Builder.call (.condition f.connective c) b =
          (.ok (), b.append f.connective c.fragment) := by
        simp [Builder.call, SqlCommand.call, SqlCommand.restrict, hadmits, Condition.check, hc]
      simp only [Step.run, hcall, holdsBlankText, isEffective, hkind]
      exact ⟨rfl, fun _ => rfl⟩
    · have hcall : Builder.call (.verbatim f.connective text f.args) b =
          if Text.isBlank text then (.error (.invalid .blankText), b)
          else (.ok (), b.append f.connective (.verbatim text f.args)) := by
        simp [Builder.call, SqlCommand.call, SqlCommand.restrictVerbatim, hadmits]
      simp only [Step.run, hcall, holdsBlankText, isEffective, hkind, htext, Option.any_some]
      cases Text.isBlank text
      · exact ⟨rfl, fun _ => rfl⟩
      · exact ⟨rfl, fun h => by cases h⟩
    · obtain ⟨hlate, -⟩ | ⟨-, hopen⟩ := b.openGroup_cases f.connective
      · exact absurd hstage hlate
      have hopen : Builder.openGroup f.connective b = .ok _ := hopen
      have hopened := filterState_opened hb f.connective
      have hinner := run_steps entries hbody (by simp [opensLevel, Fragment.endsOpen]) hopened
      have hlevel := Step.runAll_level false body (conditional_steps entries hbody).1
        (by simp [opensLevel, Fragment.endsOpen]) hopened
      have hstage' := (FilterState.mk.inj hlevel).2.2.1
      simp only [Step.run, hopen, Builder.closeGroup, SqlCommand.closeGroup_fst _ _ hstage',
        holdsBlankText, isEffective, hkind, Restriction.accepted_group]
      exact hinner.group

theorem run_steps : ∀ (entries : List FilterEntry) {body : List Step}, steps entries = .ok body →
    ∀ {b : SqlCommand} {base : List Fragment} {had : Bool} {members : List Restriction},
      opensLevel base → b.filterState = .level base had members →
      Fills (anyHoldsBlankText entries) (anyIsEffective entries) (Step.failure? body b)
        (Restriction.acceptedAll body (Step.runAll false body b).reply)
  | [], body, h, b, base, had, members, hbase, hb => by
    obtain rfl := Except.ok.inj h
    exact ⟨rfl, fun _ => rfl⟩
  | entry :: rest, body, h, b, base, had, members, hbase, hb => by
    obtain ⟨s, tail, hs, htail, rfl⟩ := steps_cons h
    have hhead := run_step entry hs hbase hb
    have hlevel := Step.run_level s (conditional_step entry hs).1 hbase hb
    exact hhead.cons (run_steps rest htail hbase hlevel)

end

end FilterEntry

/-! ### The parts of a file -/

/-- Where the filter stands for an outline without sort keys, a grouping key is always taken. -/
theorem SqlCommand.groupBy_outline {b : SqlCommand} {o : Outline}
    (hb : b.filterState = o.filterState) (hsort : o.sortKeys = []) (column : String)
    (term : Option String) :
    ∃ filter place, b.groupBy column term =
      (.ok (), { b with filter, groupPlace := some place, stage := .grouping }) := by
  obtain ⟨hfilter, -, hstage, hgroup, -⟩ := FilterState.mk.inj hb
  have hadmits : b.stage.admitsGrouping = .ok () := by
    rw [Stage.admitsGrouping_eq_ok_iff, hstage, Outline.stage, hsort]
    cases o.groupKeys <;> simp [Stage.rank]
  have hlist := Outline.withList_keyClause "GROUP BY" o.conditionFragments o.groupKeys
  have hfragments : o.fragments =
      o.conditionFragments ++ Outline.keyClause "GROUP BY" o.groupKeys := by
    simp [Outline.fragments, hsort, Outline.keyClause]
  rw [← hfragments, ← hfilter] at hlist
  simp only [groupBy, hadmits, hgroup, hlist, pushKey, Outline.pushAt_keyClause]
  exact ⟨_, _, rfl⟩

/-- A relational command that has been filled up to some part: its filter stands for an outline,
and it holds these assignments and this row. -/
structure Filling (o : Outline) (assignments row : List Assignment) (b : SqlCommand) : Prop where
  outline : b.filterState = o.filterState
  assignments : b.assignments = assignments
  row : b.row = row

section Keys
variable {o : Outline} {assignments row : List Assignment} {b : SqlCommand}
  (hb : Filling o assignments row b)
include hb

theorem Filling.groupBy (hsort : o.sortKeys = []) (column : String) (term : Option String) :
    (b.groupBy column term).1 = .ok () ∧
      Filling { o with groupKeys := o.groupKeys ++ [.groupKey column (Text.unlessBlank term)] }
        assignments row (b.groupBy column term).2 := by
  have houtline := filterState_groupBy hb.outline column term
  obtain ⟨filter, place, hcall⟩ := SqlCommand.groupBy_outline hb.outline hsort column term
  rw [hcall] at houtline ⊢
  exact ⟨rfl, houtline, hb.assignments, hb.row⟩

theorem Filling.sortBy (column : String) (term : Option String) (order : SortOrder)
    (nulls : NullsPlace) :
    (b.sortBy column term order nulls).1 = .ok () ∧
      Filling
        { o with sortKeys := o.sortKeys ++ [.sortKey column (Text.unlessBlank term) order nulls] }
        assignments row (b.sortBy column term order nulls).2 := by
  have houtline := filterState_sortBy hb.outline column term order nulls
  obtain ⟨filter, place, hcall⟩ := SqlCommand.sortBy_outline hb.outline column term order nulls
  rw [hcall] at houtline ⊢
  exact ⟨rfl, houtline, hb.assignments, hb.row⟩

end Keys

/-- The call projects something. -/
def Call.isProjection : Call → Bool
  | .project _ _ | .projectText _ _ => true
  | _ => false

namespace CommandFile

/-- An entry of `select` that was made out as a step is a projection. -/
theorem exists_projection {entry : ProjectionEntry} {s : Step} (h : entry.step = .ok s) :
    ∃ c : Call, s = .call c ∧ c.isProjection = true := by
  unfold ProjectionEntry.step at h
  split at h
  · exact ⟨_, (Except.ok.inj h).symm, rfl⟩
  · exact ⟨_, (Except.ok.inj h).symm, rfl⟩
  · cases h

theorem exists_projections : ∀ {entries : List ProjectionEntry} {steps : List Step},
    entries.mapM ProjectionEntry.step = .ok steps →
    ∃ calls : List Call, steps = calls.map .call ∧ ∀ c ∈ calls, c.isProjection = true
  | [], steps, h => ⟨[], (Except.ok.inj h).symm, by simp⟩
  | entry :: rest, steps, h => by
    rw [List.mapM_cons] at h
    obtain ⟨s, hs, h⟩ := Except.exists_of_bind_eq_ok h
    obtain ⟨tail, htail, h⟩ := Except.exists_of_bind_eq_ok h
    obtain rfl := Except.ok.inj h
    obtain ⟨c, rfl, hc⟩ := exists_projection hs
    obtain ⟨calls, rfl, hcalls⟩ := exists_projections htail
    exact ⟨c :: calls, rfl, List.forall_mem_cons.2 ⟨hc, hcalls⟩⟩

theorem passes_projections {entries : List ProjectionEntry} {steps : List Step}
    (h : entries.mapM ProjectionEntry.step = .ok steps) {o : Outline}
    {assignments row : List Assignment} {b : SqlCommand} (hb : Filling o assignments row b) :
    ∃ after, Step.Passes steps b after ∧ Filling o assignments row after := by
  obtain ⟨calls, rfl, hcalls⟩ := exists_projections h
  refine Step.exists_passes_calls id calls (fun c hc b hb => ?_) hb
  have hprojection := hcalls c hc
  cases c with
  | project | projectText => exact ⟨rfl, hb.outline, hb.assignments, hb.row⟩
  | _ => simp [Call.isProjection] at hprojection

/-- The entries of `where` pass, unless there is a blank text among them. -/
theorem passes_filter {entries : List FilterEntry} {body : List Step}
    (h : FilterEntry.steps entries = .ok body) {b : SqlCommand} (hb : Filling {} [] [] b) :
    if FilterEntry.anyHoldsBlankText entries then
      Step.failure? body b = some (.invalid .blankText)
    else
      ∃ after members, Step.Passes body b after ∧
        Filling { conditions := members } [] [] after ∧
        members.isEmpty = !FilterEntry.anyIsEffective entries := by
  have hlevel : b.filterState = .level [] false [] := hb.outline.trans rfl
  have hfills := FilterEntry.run_steps entries h rfl hlevel
  obtain ⟨hkeyless, hfilters⟩ := FilterEntry.conditional_steps entries h
  cases hblank : FilterEntry.anyHoldsBlankText entries with
  | true => simpa [hblank] using hfills.failure
  | false =>
    have htidy : b.filterState.Tidy := hlevel ▸ .of_filtering rfl rfl rfl
    have hframe := (Step.runAll_grown false body hfilters htidy).frame
    rw [if_neg (by simp)]
    refine ⟨_, _, ⟨by simpa [hblank] using hfills.failure, rfl⟩, ⟨?_, ?_, ?_⟩,
      hfills.added hblank⟩
    · rw [Step.runAll_level false body hkeyless rfl hlevel, List.nil_append]
      exact (Outline.filterState_of_filtering (o := { conditions := _ }) rfl).symm
    · rw [hframe]
      exact hb.assignments
    · rw [hframe]
      exact hb.row

/-- Keys are taken in the order of a file: those for grouping, and then those for sorting. -/
theorem passes_keys (groups : List GroupEntry) (sorts : List SortEntry)
    {members : List Restriction} {assignments row : List Assignment} {b : SqlCommand}
    (hb : Filling { conditions := members } assignments row b) :
    ∃ after o, Step.Passes
        ((groups.map fun g => .call (.groupBy g.column g.term)) ++
          sorts.map fun k => .call (.sortBy k.column k.term k.order k.nulls)) b after ∧
      Filling o assignments row after ∧ o.conditions = members := by
  obtain ⟨grouped, hgroups, o, hgrouped, ho, -⟩ := Step.exists_passes_calls
    (P := fun b => ∃ o, Filling o assignments row b ∧ o.conditions = members ∧ o.sortKeys = [])
    (fun g => .groupBy g.column g.term) groups
    (fun g _ _ ⟨_, hb, ho, hsort⟩ => by
      obtain ⟨htaken, hafter⟩ := hb.groupBy hsort g.column g.term
      exact ⟨htaken, _, hafter, ho, hsort⟩)
    ⟨_, hb, rfl, rfl⟩
  obtain ⟨after, hsorts, o, hafter, ho⟩ := Step.exists_passes_calls
    (P := fun b => ∃ o, Filling o assignments row b ∧ o.conditions = members)
    (fun k => .sortBy k.column k.term k.order k.nulls) sorts
    (fun k _ _ ⟨_, hb, ho⟩ => by
      obtain ⟨htaken, hafter⟩ := hb.sortBy k.column k.term k.order k.nulls
      exact ⟨htaken, _, hafter, ho⟩)
    ⟨o, hgrouped, ho⟩
  exact ⟨after, o, hgroups.append hsorts, hafter, ho⟩

/-- The assignment as a command keeps it. -/
def kept (a : Assignment) : Assignment := { a with term := Text.unlessBlank a.term }

section Rows
variable {o : Outline} {assignments row : List Assignment} {b : SqlCommand}

/-- Assignments are always taken. -/
theorem passes_assignments : ∀ (assigned : List Assignment) {assignments : List Assignment}
    {b : SqlCommand}, Filling o assignments row b →
    ∃ after, Step.Passes (assigned.map fun a => .call (.assign a.column a.value a.term)) b after ∧
      Filling o (assignments ++ assigned.map kept) row after
  | [], _, b, hb => ⟨b, .nil b, by simpa using hb⟩
  | a :: rest, assignments, b, hb => by
    have hassigned : Filling o (assignments ++ [kept a]) row
        { b with assignments := b.assignments ++ [kept a] } :=
      ⟨hb.outline, by rw [hb.assignments], hb.row⟩
    obtain ⟨after, hpasses, hafter⟩ := passes_assignments rest hassigned
    exact ⟨after, .cons rfl hpasses, by simpa using hafter⟩

/-- The columns of a row are taken up to the first one that is in it already. -/
theorem run_row : ∀ (supplied : List Assignment) {seen : List String} {row : List Assignment}
    {b : SqlCommand}, Filling o assignments row b →
    (∀ column, column ∈ seen ↔ column ∈ row.map Assignment.column) →
    match firstRepeated seen (supplied.map Assignment.column) with
    | some column =>
      Step.failure? (supplied.map fun a => .call (.supply a.column a.value a.term)) b =
        some (.invalid (.suppliedTwice column))
    | none =>
      ∃ after,
        Step.Passes (supplied.map fun a => .call (.supply a.column a.value a.term)) b after ∧
          Filling o assignments (row ++ supplied.map kept) after
  | [], _, _, b, hb, _ => ⟨b, .nil b, by simpa using hb⟩
  | a :: rest, seen, row, b, hb, hseen => by
    have hany : (b.row.any fun earlier => earlier.column == a.column) = seen.contains a.column := by
      rw [hb.row, Bool.eq_iff_iff, List.contains_iff_mem, hseen a.column]
      simp
    simp only [List.map_cons, firstRepeated]
    cases hold : seen.contains a.column with
    | true =>
      rw [hold] at hany
      have hcall : Builder.call (.supply a.column a.value a.term) b =
          (.error (.invalid (.suppliedTwice a.column)), b) := by
        simp only [Builder.call, SqlCommand.call, Assignment.pushNew, hany, if_true]
      simp [Step.failure?_cons, Step.run, hcall, Reply.ofResult, Reply.error?]
    | false =>
      rw [hold] at hany
      have hcall : Builder.call (.supply a.column a.value a.term) b =
          (.ok (), { b with row := b.row ++ [kept a] }) := by
        simp only [Builder.call, SqlCommand.call, Assignment.pushNew, hany, Bool.false_eq_true,
          if_false]
        rfl
      have hrun : (Step.call (.supply a.column a.value a.term)).run b =
          ⟨.done, [], { b with row := b.row ++ [kept a] }⟩ := by
        simp only [Step.run, hcall, Reply.ofResult]
      have hsupplied : Filling o assignments (row ++ [kept a])
          { b with row := b.row ++ [kept a] } :=
        ⟨hb.outline, hb.assignments, by rw [hb.row]⟩
      have hseen' : ∀ column, column ∈ a.column :: seen ↔
          column ∈ (row ++ [kept a]).map Assignment.column := by
        simp [hseen, kept, or_comm]
      have hrest := run_row rest hsupplied hseen'
      rw [if_neg (by simp)]
      split at hrest
      · rw [Step.failure?_cons, hrun]
        exact hrest
      · obtain ⟨after, hpasses, hafter⟩ := hrest
        exact ⟨after, .cons (by rw [hrun]; rfl) (by rw [hrun]; exact hpasses),
          by simpa using hafter⟩

end Rows

/-- What is wrong with a file without keeping it from being a plan: a blank text among the entries
of `where`, or else the first column that is named again in the row of a file. -/
def lateFault? (file : CommandFile) : Option InputFault :=
  if FilterEntry.anyHoldsBlankText file.filter then some .blankText
  else (firstRepeated [] (file.row.map Assignment.column)).map .suppliedTwice

/-- The steps of a file stop at its late fault; if it has none, they pass. -/
theorem run_steps (file : CommandFile) {projections filter : List Step}
    (hprojections : file.projections.mapM ProjectionEntry.step = .ok projections)
    (hfilter : FilterEntry.steps file.filter = .ok filter) (target : Target) :
    let steps := .call (.setTarget target) :: (projections ++ filter ++ file.trailing)
    match file.lateFault? with
    | some fault => Step.failure? steps ({} : SqlCommand) = some (.invalid fault)
    | none =>
      ∃ after o, Step.Passes steps ({} : SqlCommand) after ∧
        Filling o (file.assignments.map kept) (file.row.map kept) after ∧
        o.conditions.isEmpty = !FilterEntry.anyIsEffective file.filter := by
  intro steps
  have hstart : Filling {} [] [] { target } := ⟨rfl, rfl, rfl⟩
  obtain ⟨projected, hprojects, hprojected⟩ := passes_projections hprojections hstart
  have htargeted : Step.Passes (.call (.setTarget target) :: projections) {} projected :=
    .cons rfl hprojects
  have hfills := passes_filter hfilter hprojected
  unfold lateFault?
  cases hblank : FilterEntry.anyHoldsBlankText file.filter with
  | true =>
    rw [if_pos hblank] at hfills
    rw [if_pos rfl]
    have hsteps : steps =
        (.call (.setTarget target) :: projections) ++ (filter ++ file.trailing) := by
      simp [steps]
    rw [hsteps]
    exact (htargeted.run_append _).1.trans (Step.failure?_append_of_failed hfills _)
  | false =>
    rw [if_neg (by simp [hblank])] at hfills
    rw [if_neg (by simp)]
    obtain ⟨filtered, members, hfilters, hfiltered, heffective⟩ := hfills
    obtain ⟨keyed, o, hkeys, hkeyed, rfl⟩ := passes_keys file.groupBy file.sortBy hfiltered
    obtain ⟨assigned, hassigns, hassigned⟩ := passes_assignments file.assignments hkeyed
    have hnone : ∀ column, column ∈ ([] : List String) ↔
        column ∈ ([] : List Assignment).map Assignment.column := by simp
    have hrow := run_row file.row hassigned hnone
    have hearlier := ((htargeted.append hfilters).append hkeys).append hassigns
    have hsteps : steps = (((.call (.setTarget target) :: projections) ++ filter) ++
        ((file.groupBy.map fun g => .call (.groupBy g.column g.term)) ++
          file.sortBy.map fun k => .call (.sortBy k.column k.term k.order k.nulls)) ++
        file.assignments.map fun a => .call (.assign a.column a.value a.term)) ++
        file.row.map fun a => .call (.supply a.column a.value a.term) := by
      simp [steps, trailing]
    rw [hsteps]
    cases hrepeated : firstRepeated [] (file.row.map Assignment.column) with
    | some column =>
      rw [hrepeated] at hrow
      exact (hearlier.run_append _).1.trans hrow
    | none =>
      rw [hrepeated] at hrow
      obtain ⟨after, hsupplies, hafter⟩ := hrow
      exact ⟨after, o, hearlier.append hsupplies, hafter, heffective⟩

end CommandFile

end DataCommand
