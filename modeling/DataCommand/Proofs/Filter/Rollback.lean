import DataCommand.Proofs.Filter.Placement

/-!
Groups that fail. Closing a failed group puts the filter and its flag back to what they were when
the group was opened, but neither the stage nor the remembered places of the keys. So the command is
as it was before exactly if no key was asked for inside; after a key, the command stays in the stage
of the key without having its list.
-/

namespace DataCommand

mutual

/-- The step adds to the filter, or leaves the command alone: a condition, a key, or a group of such
steps. -/
def Step.filters : Step → Bool
  | .call (.condition _ _) | .call (.verbatim _ _ _) => true
  | .call (.groupBy _ _) | .call (.sortBy _ _ _ _) => true
  | .ask _ | .refused _ => true
  | .group _ body _ _ => Step.allFilter body
  | _ => false

def Step.allFilter : List Step → Bool
  | [] => true
  | s :: rest => s.filters && Step.allFilter rest

end

mutual

/-- A key was asked for in the step, as far as the step has come by the reply to it. -/
def Step.triesKey : Step → Reply → Bool
  | .call (.groupBy _ _), _ | .call (.sortBy _ _ _ _), _ => true
  | .group _ body _ _, .group _ inner => Step.triesKeys body inner
  | _, _ => false

/-- A key was asked for in the steps that have got a reply. -/
def Step.triesKeys : List Step → List Reply → Bool
  | s :: steps, r :: replies => s.triesKey r || Step.triesKeys steps replies
  | _, _ => false

end

/-- The filter begins with what was there when a group was opened, and all places of keys are behind
that. -/
structure FilterState.Above (base : List Fragment) (s : FilterState) : Prop where
  stands : base <+: s.filter
  places : ∀ i, s.groupPlace = some i ∨ s.sortPlace = some i → base.length < i

namespace SqlCommand
variable {b after : SqlCommand} {base : List Fragment}

/-- The command with another filter part. -/
def withFilter (b : SqlCommand) (s : FilterState) : SqlCommand :=
  { b with
    filter := s.filter
    hasConditions := s.hasConditions
    stage := s.stage
    groupPlace := s.groupPlace
    sortPlace := s.sortPlace }

/-- A key that comes to the end of its list leaves what is before the list. -/
theorem above_key {keyword : String} {earlier keys : List Fragment} {place : Option Nat}
    (key : Fragment) (hb : b.filterState.Above base) (hfrom : ListFrom place earlier keys)
    (hplace : ∀ i, place = some i → base.length < i)
    (hfilter : b.filter = earlier ++ Outline.keyClause keyword keys) :
    base <+: earlier ++ Outline.keyClause keyword (keys ++ [key]) ∧
      base.length < earlier.length + 1 := by
  have hstands : base <+: earlier ++ Outline.keyClause keyword keys := hfilter ▸ hb.stands
  have hbase : base <+: earlier := by
    obtain ⟨-, rfl⟩ | ⟨hplaced, -⟩ := hfrom
    · simpa [Outline.keyClause] using hstands
    · exact List.prefix_of_prefix_length_le hstands (List.prefix_append _ _)
        (Nat.le_of_lt_succ (hplace _ hplaced))
  exact ⟨hbase.trans (List.prefix_append _ _), Nat.lt_succ_of_le hbase.length_le⟩

/-- What steps of a filter make of a command: nothing but its filter part, in which everything
stays that was there before, and the stage is left if a key was asked for. -/
structure Grown (b after : SqlCommand) (tried : Bool) : Prop where
  frame : after = b.withFilter after.filterState
  above : ∀ base, b.filterState.Above base → after.filterState.Above base
  stage : after.stage = .filtering ↔ b.stage = .filtering ∧ tried = false

theorem Grown.refl (b : SqlCommand) : b.Grown b false := ⟨rfl, fun _ h => h, by simp⟩

theorem Grown.trans {c : SqlCommand} {tried later : Bool} (h : b.Grown after tried)
    (h' : after.Grown c later) : b.Grown c (tried || later) := by
  refine ⟨?_, fun base hbase => h'.above base (h.above base hbase), ?_⟩
  · rw [h'.frame, h.frame]
    rfl
  · rw [h'.stage, h.stage, Bool.or_eq_false_iff, and_assoc]

theorem Grown.append (k : Connective) (f : Fragment) (b : SqlCommand) :
    b.Grown (b.append k f) false := by
  refine ⟨rfl, fun base hbase => ⟨?_, hbase.places⟩, by simp [SqlCommand.append]⟩
  simp only [filterState, SqlCommand.append, List.append_assoc]
  exact hbase.stands.trans (List.prefix_append _ _)

theorem Grown.condition (k : Connective) (c : Condition) (b : SqlCommand) :
    b.Grown (b.restrict k c).2 false := by
  obtain ⟨e, h⟩ | ⟨-, -, h⟩ := b.restrict_cases k c
  · rw [h]
    exact .refl b
  · rw [h]
    exact .append k _ b

theorem Grown.verbatim (k : Connective) (text : String) (args : List Value) (b : SqlCommand) :
    b.Grown (b.restrictVerbatim k text args).2 false := by
  obtain ⟨e, h⟩ | ⟨-, -, h⟩ := b.restrictVerbatim_cases k text args
  · rw [h]
    exact .refl b
  · rw [h]
    exact .append k _ b

theorem Grown.groupBy (hb : b.filterState.Tidy) (column : String) (term : Option String) :
    b.Grown (b.groupBy column term).2 true := by
  obtain ⟨hstage, e, h⟩ | ⟨earlier, keys, -, hfrom, hfilter, h⟩ := groupBy_cases hb column term
  · rw [h]
    exact ⟨rfl, fun _ hbase => hbase, by simp [hstage]⟩
  · rw [h]
    refine ⟨rfl, fun base hbase => ?_, by simp⟩
    obtain ⟨hstands, hlt⟩ := above_key (.groupKey column (Text.unlessBlank term)) hbase hfrom
      (fun i hi => hbase.places i (.inl hi)) hfilter
    refine ⟨hstands, ?_⟩
    rintro i (hi | hi)
    · exact Option.some.inj hi ▸ hlt
    · exact hbase.places i (.inr hi)

theorem Grown.sortBy (hb : b.filterState.Tidy) (column : String) (term : Option String)
    (order : SortOrder) (nulls : NullsPlace) :
    b.Grown (b.sortBy column term order nulls).2 true := by
  obtain ⟨hstage, e, h⟩ | ⟨earlier, keys, hfrom, hfilter, h⟩ :=
    sortBy_cases hb column term order nulls
  · rw [h]
    exact ⟨rfl, fun _ hbase => hbase, by simp [hstage]⟩
  · rw [h]
    refine ⟨rfl, fun base hbase => ?_, by simp⟩
    obtain ⟨hstands, hlt⟩ := above_key (.sortKey column (Text.unlessBlank term) order nulls) hbase
      hfrom (fun i hi => hbase.places i (.inr hi)) hfilter
    refine ⟨hstands, ?_⟩
    rintro i (hi | hi)
    · exact hbase.places i (.inl hi)
    · exact Option.some.inj hi ▸ hlt

/-- The command in a group that has just been opened. -/
def opened (k : Connective) (b : SqlCommand) : SqlCommand :=
  { b with filter := b.filter ++ lead b.filter k ++ [.openParen] }

theorem above_opened (h : b.filterState.Above base) (k : Connective) :
    (b.opened k).filterState.Above base := by
  refine ⟨?_, h.places⟩
  simp only [filterState, opened, List.append_assoc]
  exact h.stands.trans (List.prefix_append _ _)

/-- A group grows the command by what is done in it, whether it is kept or not. -/
theorem Grown.closeGroup {inner : SqlCommand} {tried : Bool} (k : Connective)
    (h : (b.opened k).Grown inner tried) (verdict : Except CommandError Unit) :
    b.Grown (inner.closeGroup ⟨b.filter.length, b.hasConditions⟩ verdict).2 tried := by
  have hframe : inner = b.withFilter inner.filterState := h.frame
  have habove : ∀ base, b.filterState.Above base → inner.filterState.Above base :=
    fun base hbase => h.above base (above_opened hbase k)
  rw [closeGroup_snd]
  split
  · refine ⟨congrArg (undo ⟨b.filter.length, b.hasConditions⟩) hframe,
      fun base hbase => ⟨?_, (habove base hbase).places⟩, h.stage⟩
    exact List.prefix_take_iff.2 ⟨(habove base hbase).stands, hbase.stands.length_le⟩
  · have hclosed := congrArg
      (fun i : SqlCommand => { i with filter := i.filter ++ [Fragment.closeParen] }) hframe
    refine ⟨hclosed, fun base hbase => ⟨?_, (habove base hbase).places⟩, h.stage⟩
    exact (habove base hbase).stands.trans (List.prefix_append _ _)

/-- Whoever asks for a grouping key after a list of keys has gone with its group is refused. -/
theorem groupBy_displaced (hb : b.filterState.Tidy) (hstage : b.stage ≠ .filtering)
    (hplaces : ∀ i, b.groupPlace = some i → b.filter.length < i) (column : String)
    (term : Option String) : (b.groupBy column term).1.isOk = false := by
  obtain ⟨-, e, h⟩ | ⟨earlier, keys, hrank, hfrom, hfilter, h⟩ := groupBy_cases hb column term
  · rw [h]
    rfl
  · exfalso
    obtain ⟨i, hi⟩ : ∃ i, b.groupPlace = some i := by
      cases hstage' : b.stage with
      | filtering => exact absurd hstage' hstage
      | grouping => exact ⟨_, (hb.grouping hstage').2.choose_spec.1⟩
      | ordering => simp [hstage', Stage.rank] at hrank
    obtain ⟨hnone, -⟩ | ⟨hplaced, hkeys⟩ := hfrom
    · simp [hi] at hnone
    · have hlt := hplaces _ hplaced
      simp [hfilter, Outline.keyClause, hkeys] at hlt

/-- After a list of keys has gone with its group, only a sort key may still be taken. -/
theorem call_displaced (hb : b.filterState.Tidy) (hstage : b.stage ≠ .filtering)
    (hplaces : ∀ i, b.groupPlace = some i → b.filter.length < i) {c : Call} {clause : Stage}
    (hc : c.clause? = some clause) (hclause : clause ≠ .ordering) :
    (call c b).1.isOk = false := by
  cases c with
  | groupBy column term => exact groupBy_displaced hb hstage hplaces column term
  | sortBy => exact absurd (Option.some.inj hc).symm hclause
  | condition k c =>
    obtain ⟨e, h⟩ | ⟨hfiltering, -⟩ := b.restrict_cases k c
    · exact congrArg (fun o : Outcome SqlCommand => o.1.isOk) h
    · exact absurd hfiltering hstage
  | verbatim k text args =>
    obtain ⟨e, h⟩ | ⟨hfiltering, -⟩ := b.restrictVerbatim_cases k text args
    · exact congrArg (fun o : Outcome SqlCommand => o.1.isOk) h
    · exact absurd hfiltering hstage
  | _ => simp [Call.clause?] at hc

theorem openGroup_late (hstage : b.stage ≠ .filtering) (k : Connective) :
    (b.openGroup k).isOk = false := by
  obtain ⟨-, e, h⟩ | ⟨hfiltering, -⟩ := b.openGroup_cases k
  · rw [h]
    rfl
  · exact absurd hfiltering hstage

end SqlCommand

namespace Step

theorem tidy_run (s : Step) {b : SqlCommand} (hb : b.filterState.Tidy) :
    (s.run b).after.filterState.Tidy := by
  obtain ⟨moves, hmoves⟩ := Step.exists_moves s b []
  have htidy := Session.tidy_run moves (s := ⟨b, []⟩) hb
  rwa [hmoves] at htidy

theorem triesKeys_nil (steps : List Step) : Step.triesKeys steps [] = false := by
  cases steps <;> rfl

mutual

/-- A step of a filter grows the command. -/
theorem run_grown : (s : Step) → s.filters = true → ∀ {b : SqlCommand}, b.filterState.Tidy →
    b.Grown (s.run b).after (s.triesKey (s.run b).reply)
  | .call c, hs, b, hb => by
    cases c with
    | condition k c => exact .condition k c b
    | verbatim k text args => exact .verbatim k text args b
    | groupBy column term => exact .groupBy hb column term
    | sortBy column term order nulls => exact .sortBy hb column term order nulls
    | _ => simp [filters] at hs
  | .render _ _ _, hs, _, _ => by simp [filters] at hs
  | .ask _, _, b, _ => .refl b
  | .refused _, _, b, _ => .refl b
  | .group k body goOn verdict, hs, b, hb => by
    obtain ⟨-, e, hopen⟩ | ⟨hstage, hopen⟩ := b.openGroup_cases k
    · have hopen : Builder.openGroup k b = .error e := hopen
      have hrun : (Step.group k body goOn verdict).run b = ⟨.group (.error e) [], [], b⟩ := by
        simp only [run, hopen]
      rw [hrun, triesKey, triesKeys_nil]
      exact .refl b
    · have hopen : Builder.openGroup k b = .ok (⟨b.filter.length, b.hasConditions⟩, b.opened k) :=
        hopen
      have htidy : (b.opened k).filterState.Tidy :=
        .of_filtering hstage (hb.filtering hstage).1 (hb.filtering hstage).2
      simp only [run, hopen]
      exact (runAll_grown goOn body hs htidy).closeGroup k _

/-- Steps of a filter grow the command. -/
theorem runAll_grown (goOn : Bool) : (steps : List Step) → Step.allFilter steps = true →
    ∀ {b : SqlCommand}, b.filterState.Tidy →
    b.Grown (Step.runAll goOn steps b).after
      (Step.triesKeys steps (Step.runAll goOn steps b).reply)
  | [], _, b, _ => .refl b
  | s :: rest, hs, b, hb => by
    obtain ⟨hs, hrest⟩ := Bool.and_eq_true_iff.1 hs
    have hhead := run_grown s hs hb
    by_cases hstop : (!goOn && (s.run b).reply.error?.isSome) = true
    · simpa [runAll, hstop, triesKeys] using hhead
    · have htail := runAll_grown goOn rest hrest (s.tidy_run hb)
      simpa [runAll, hstop, triesKeys] using hhead.trans htail

end

end Step

namespace SqlCommand
variable {b : SqlCommand}

/-- A group that fails is not kept. -/
theorem undoes_of_failed {mark : GroupMark} {verdict : Except CommandError Unit} {e : CommandError}
    (hfail : (b.closeGroup mark verdict).1 = .error e) : b.undoes verdict = true := by
  cases hundoes : b.undoes verdict with
  | true => rfl
  | false =>
    have hkept : (verdict.isOk = true ∧ b.stage = .filtering) ∧
        Fragment.endsOpen b.filter = false := by
      simpa [undoes] using hundoes
    rw [closeGroup_fst _ _ hkept.1.2] at hfail
    simp [hfail, Except.isOk, Except.toBool] at hkept

/-- A group that fails puts the filter and its flag back to what they were. -/
theorem restored_of_failed {k : Connective} {inner : SqlCommand} {tried : Bool}
    (h : (b.opened k).Grown inner tried) (hb : b.filterState.Above b.filter)
    {verdict : Except CommandError Unit} {e : CommandError}
    (hfail : (inner.closeGroup ⟨b.filter.length, b.hasConditions⟩ verdict).1 = .error e) :
    let after := (inner.closeGroup ⟨b.filter.length, b.hasConditions⟩ verdict).2
    after.filter = b.filter ∧ after.hasConditions = b.hasConditions := by
  obtain ⟨later, hfilter⟩ : b.filter <+: inner.filter := (h.above _ (above_opened hb k)).stands
  rw [closeGroup_snd, if_pos (undoes_of_failed hfail), undo, ← hfilter, List.take_left]
  exact ⟨rfl, rfl⟩

/-- Without remembered places all of them are behind the filter. -/
theorem above_self (hb : b.filterState.Tidy) (hstage : b.stage = .filtering) :
    b.filterState.Above b.filter := by
  obtain ⟨hgroup, hsort⟩ := hb.filtering hstage
  exact ⟨List.prefix_rfl, by simp [hgroup, hsort]⟩

end SqlCommand

/-- A group that fails was not opened at all, or it has its conditions undone. -/
theorem Step.failed_group_cases {b : SqlCommand} (hb : b.filterState.Tidy) (k : Connective)
    {body : List Step} (hbody : Step.allFilter body = true) (goOn : Bool)
    (verdict : Except CommandError Unit) {e : CommandError} {inner : List Reply}
    (hfail : ((Step.group k body goOn verdict).run b).reply = .group (.error e) inner) :
    let after := ((Step.group k body goOn verdict).run b).after
    (after = b ∧ inner = []) ∨
      b.stage = .filtering ∧ after.filter = b.filter ∧ after.hasConditions = b.hasConditions := by
  intro after
  obtain ⟨-, e', hopen⟩ | ⟨hstage, hopen⟩ := b.openGroup_cases k
  · have hopen : Builder.openGroup k b = .error e' := hopen
    have hrun : (Step.group k body goOn verdict).run b = ⟨.group (.error e') [], [], b⟩ := by
      simp only [Step.run, hopen]
    obtain ⟨-, hinner⟩ := Reply.group.inj ((congrArg Run.reply hrun).symm.trans hfail)
    exact .inl ⟨congrArg Run.after hrun, hinner.symm⟩
  · have hopen : Builder.openGroup k b = .ok (⟨b.filter.length, b.hasConditions⟩, b.opened k) :=
      hopen
    have hinner : (b.opened k).Grown _ _ := Step.runAll_grown goOn body hbody
      (.of_filtering hstage (hb.filtering hstage).1 (hb.filtering hstage).2)
    simp only [Step.run, hopen, Reply.group.injEq] at hfail
    simp only [after, Step.run, hopen]
    exact .inr ⟨hstage, SqlCommand.restored_of_failed hinner (SqlCommand.above_self hb hstage)
      hfail.1⟩

/-- A group that fails has its conditions undone: nothing of the command is changed but the stage
and the remembered places. The command as a whole is what it was exactly if no key was asked for in
the group, at whatever depth. Otherwise the stage of the key stays, with the place of a list that
is not there any more: until a reset, no condition, no group and no grouping key is taken. -/
theorem failed_group_undone_iff_no_key_tried {b : SqlCommand}
    (hb : Reachable ({} : SqlCommand) b) (k : Connective) {body : List Step}
    (hbody : Step.allFilter body = true) (goOn : Bool) (verdict : Except CommandError Unit)
    {e : CommandError} {inner : List Reply}
    (hfail : ((Step.group k body goOn verdict).run b).reply = .group (.error e) inner) :
    let after := ((Step.group k body goOn verdict).run b).after
    after = { b with
        stage := after.stage
        groupPlace := after.groupPlace
        sortPlace := after.sortPlace } ∧
      (after = b ↔ Step.triesKeys body inner = false) ∧
      (Step.triesKeys body inner = true →
        (∀ c clause, c.clause? = some clause → clause ≠ .ordering →
            (SqlCommand.call c after).1.isOk = false) ∧
          ∀ connective, (after.openGroup connective).isOk = false) := by
  intro after
  have htidy := SqlCommand.tidy_of_reachable hb
  have hafter : after.filterState.Tidy := Step.tidy_run _ htidy
  obtain ⟨hsame, rfl⟩ | ⟨hstage, hfilter, hhas⟩ : (after = b ∧ inner = []) ∨
      b.stage = .filtering ∧ after.filter = b.filter ∧ after.hasConditions = b.hasConditions :=
    Step.failed_group_cases htidy k hbody goOn verdict hfail
  · simp [hsame, Step.triesKeys_nil]
  have habove := SqlCommand.above_self htidy hstage
  have hgrown : b.Grown after (Step.triesKeys body inner) := by
    have hstep := Step.run_grown (.group k body goOn verdict) hbody htidy
    rwa [hfail] at hstep
  have hframe : after = { b with
      stage := after.stage
      groupPlace := after.groupPlace
      sortPlace := after.sortPlace } := by
    have hparts := hgrown.frame
    simpa only [SqlCommand.withFilter, SqlCommand.filterState, hfilter, hhas] using hparts
  refine ⟨hframe, ⟨fun hsame => ?_, fun huntried => ?_⟩, fun htried => ?_⟩
  · exact (hgrown.stage.1 (hsame ▸ hstage)).2
  · have hlast : after.stage = .filtering := hgrown.stage.2 ⟨hstage, huntried⟩
    obtain ⟨hgroup, hsort⟩ := htidy.filtering hstage
    obtain ⟨hgroup', hsort'⟩ := hafter.filtering hlast
    rw [hframe, show after.stage = b.stage from hlast.trans hstage.symm,
      show after.groupPlace = b.groupPlace from hgroup'.trans hgroup.symm,
      show after.sortPlace = b.sortPlace from hsort'.trans hsort.symm]
  · have hlast : after.stage ≠ .filtering := fun h => by simp [(hgrown.stage.1 h).2] at htried
    refine ⟨fun c clause hc hclause => ?_, SqlCommand.openGroup_late hlast⟩
    refine SqlCommand.call_displaced hafter hlast (fun i hi => ?_) hc hclause
    rw [hfilter]
    exact (hgrown.above _ habove).places i (.inl hi)

/-- A group with a condition in it fails without a trace. One that has come to a grouping key leaves
its stage, in which the next condition is refused. -/
theorem failed_group_undone_iff_no_key_tried_plain_keyed :
    let b : SqlCommand := {}
    let condition : Call := .condition {} ⟨"a", none, .operand .eq (.int 1)⟩
    let key : Call := .groupBy "c" none
    let plain : Step := .group {} [.call condition] false (.error (.invalid (.other "no")))
    let keyed : Step := .group {} [.call condition, .call key] false (.ok ())
    (plain.run b).after = b ∧ (keyed.run b).after ≠ b ∧
      (SqlCommand.call condition (keyed.run b).after).1.isOk = false := by
  intro b condition key plain keyed
  have hb : Reachable ({} : SqlCommand) b := ⟨[], rfl⟩
  have hplain : Step.allFilter [.call condition] = true := rfl
  have hfailed : (plain.run b).reply = .group (.error (.invalid (.other "no"))) [.done] := rfl
  have hkeyed : Step.allFilter [.call condition, .call key] = true := rfl
  have hlate : (keyed.run b).reply =
      .group (.error (.outOfOrder "condition" "GROUP BY")) [.done, .done] := rfl
  have hrestored := failed_group_undone_iff_no_key_tried hb {} hplain false _ hfailed
  have hstuck := failed_group_undone_iff_no_key_tried hb {} hkeyed false _ hlate
  refine ⟨hrestored.2.1.2 rfl, fun hsame => ?_,
    (hstuck.2.2 rfl).1 condition .filtering rfl (by simp)⟩
  exact Bool.noConfusion (hstuck.2.1.1 hsame)

end DataCommand
