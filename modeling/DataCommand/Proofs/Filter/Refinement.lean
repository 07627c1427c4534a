import DataCommand.Proofs.Filter.Outline

/-!
A relational filter is the flat form of its outline. Inside a group the invariant is a level: the
fragments up to the opening parenthesis, and behind them the elements that the group has accepted.
Outside, the whole filter part of the command is that of the outline; both are kept step by step.
-/

namespace DataCommand

open Restriction

namespace Fragment

@[simp]
theorem endsOpen_concat (fs : List Fragment) (f : Fragment) :
    endsOpen (fs ++ [f]) = endsOpen [f] := by
  simp [endsOpen]

end Fragment

namespace Restriction

/-- The last fragment of an element is no opening parenthesis. -/
theorem endsOpen_append_flatten (fs : List Fragment) (first : Bool) (r : Restriction) :
    Fragment.endsOpen (fs ++ flatten first r) = false := by
  cases r with
  | condition => rw [flatten, ← List.append_assoc, Fragment.endsOpen_concat]; rfl
  | verbatim => rw [flatten, ← List.append_assoc, Fragment.endsOpen_concat]; rfl
  | group k members =>
    rw [flatten, ← List.append_assoc, ← List.cons_append, ← List.append_assoc,
      Fragment.endsOpen_concat]
    rfl

theorem flatten_ne_nil (first : Bool) (r : Restriction) : flatten first r ≠ [] := by
  cases r <;> simp [flatten]

end Restriction

/-- The filter part of a command on a level: behind the fragments `base`, which came before the
level, stand the elements of the level. -/
def FilterState.level (base : List Fragment) (had : Bool) (members : List Restriction) :
    FilterState :=
  { filter := base ++ flattenAll true members, hasConditions := had || !members.isEmpty }

/-- Where a level begins: at the start of the filter or behind an opening parenthesis. -/
def opensLevel (base : List Fragment) : Bool := base.isEmpty || Fragment.endsOpen base

section Level
variable {base : List Fragment} {had : Bool} {members : List Restriction}

/-- A level ends with an opening parenthesis exactly as long as it is empty. -/
theorem endsOpen_level (base : List Fragment) :
    ∀ members : List Restriction, members ≠ [] →
      Fragment.endsOpen (base ++ flattenAll true members) = false := by
  intro members hne
  obtain ⟨init, r, rfl⟩ := (List.eq_nil_or_concat members).resolve_left hne
  rw [List.concat_eq_append, flattenAll_concat, ← List.append_assoc, endsOpen_append_flatten]

theorem lead_level (hbase : opensLevel base) (members : List Restriction) (k : Connective) :
    SqlCommand.lead (base ++ flattenAll true members) k = introduction members.isEmpty k := by
  unfold SqlCommand.lead introduction
  cases members with
  | nil =>
    have : base.isEmpty || Fragment.endsOpen base := hbase
    simp [flattenAll, this]
  | cons r rest =>
    have hne : base ++ flattenAll true (r :: rest) ≠ [] := by
      simp [flattenAll, flatten_ne_nil]
    simp [endsOpen_level base (r :: rest) (by simp), hne]

/-- An element that comes to the end of the filter comes to the end of the level. -/
theorem filterState_append {b : SqlCommand} (hbase : opensLevel base)
    (hb : b.filterState = .level base had members) (k : Connective) (f : Fragment)
    {r : Restriction} (hr : flatten members.isEmpty r = introduction members.isEmpty k ++ [f]) :
    (b.append k f).filterState = .level base had (members ++ [r]) := by
  obtain ⟨hfilter, -, hstage, hgroup, hsort⟩ := FilterState.mk.inj hb
  simp [SqlCommand.filterState, SqlCommand.append, FilterState.level, hfilter, hstage, hgroup,
    hsort, lead_level hbase, flattenAll_concat, hr]

/-- A call inside a group comes to the end of the level if it is a condition that is accepted. -/
theorem filterState_call_level {b : SqlCommand} (hbase : opensLevel base)
    (hb : b.filterState = .level base had members) (c : Call) (hc : (Step.call c).keyless) :
    (SqlCommand.call c b).2.filterState =
      .level base had (members ++ accepted (.call c) (.ofResult (SqlCommand.call c b).1)) := by
  cases c with
  | condition k c =>
    simp only [SqlCommand.call]
    obtain ⟨e, h⟩ | ⟨-, -, h⟩ := b.restrict_cases k c
    · rw [h]
      simp [Reply.ofResult, accepted, hb]
    · rw [h]
      exact filterState_append hbase hb k c.fragment rfl
  | verbatim k text args =>
    simp only [SqlCommand.call]
    obtain ⟨e, h⟩ | ⟨-, -, h⟩ := b.restrictVerbatim_cases k text args
    · rw [h]
      simp [Reply.ofResult, accepted, hb]
    · rw [h]
      exact filterState_append hbase hb k (.verbatim text args) rfl
  | groupBy | sortBy | clear => simp [Step.keyless] at hc
  | _ => rw [SqlCommand.filterState_call rfl, hb]; simp [accepted]

/-- Opening a group begins an empty level. -/
theorem filterState_opened {b : SqlCommand} (hb : b.filterState = .level base had members)
    (k : Connective) :
    ({ b with filter := b.filter ++ SqlCommand.lead b.filter k ++ [.openParen] } :
        SqlCommand).filterState =
      .level (b.filter ++ SqlCommand.lead b.filter k ++ [.openParen]) b.hasConditions [] := by
  obtain ⟨-, -, hstage, hgroup, hsort⟩ := FilterState.mk.inj hb
  simp [SqlCommand.filterState, FilterState.level, flattenAll, hstage, hgroup, hsort]

/-- Closing a group ends its level. A group that is kept becomes one element of the level around
it, and one that is not leaves that level as it was. -/
theorem filterState_closed {b after : SqlCommand} (hbase : opensLevel base)
    (hb : b.filterState = .level base had members) (k : Connective)
    {inner : List Restriction}
    (hafter : after.filterState =
      .level (b.filter ++ SqlCommand.lead b.filter k ++ [.openParen]) b.hasConditions inner)
    (verdict : Except CommandError Unit) :
    (after.closeGroup ⟨b.filter.length, b.hasConditions⟩ verdict).2.filterState =
      .level base had (members ++
        if verdict.isOk && !inner.isEmpty then [.group k inner] else []) := by
  obtain ⟨hfilter, hhas, hstage, hgroup, hsort⟩ := FilterState.mk.inj hb
  obtain ⟨hfilter', hhas', hstage', hgroup', hsort'⟩ := FilterState.mk.inj hafter
  have hempty : Fragment.endsOpen after.filter = inner.isEmpty := by
    rw [hfilter']
    cases inner with
    | nil => simp [flattenAll, Fragment.endsOpen]
    | cons r rest => exact endsOpen_level _ (r :: rest) (by simp)
  have hundo : (after.undo ⟨b.filter.length, b.hasConditions⟩).filterState = b.filterState := by
    simp [SqlCommand.filterState, SqlCommand.undo, hfilter', hstage', hgroup', hsort', hstage,
      hgroup, hsort]
  have hkeeps : after.undoes verdict = !(verdict.isOk && !inner.isEmpty) := by
    simp [SqlCommand.undoes, hstage', hempty]
  rw [SqlCommand.closeGroup_snd, hkeeps]
  cases hkeep : verdict.isOk && !inner.isEmpty with
  | false => simp [hundo, hb]
  | true =>
    have hne : inner.isEmpty = false := by simp_all
    have hlead := lead_level hbase members k
    simp [SqlCommand.filterState, FilterState.level, hfilter', hhas', hstage', hgroup', hsort',
      hfilter, hne, hlead, flattenAll_concat, flatten]

end Level

mutual

/-- A step without keys keeps the level, with what it has added by the reply to it. -/
theorem Step.run_level : (s : Step) → s.keyless → ∀ {b : SqlCommand} {base : List Fragment}
    {had : Bool} {members : List Restriction}, opensLevel base →
    b.filterState = .level base had members →
    (s.run b).after.filterState = .level base had (members ++ accepted s (s.run b).reply)
  | .call c, hs, _, _, _, _, hbase, hb => filterState_call_level hbase hb c hs
  | .render request d quote, _, b, _, _, _, _, hb => by
    have h : (Builder.render request d quote b).after.filterState = b.filterState :=
      SqlCommand.filterState_render request d quote b
    simp [Step.run, accepted, h, hb]
  | .ask _, _, _, _, _, _, _, hb => by simp [Step.run, accepted, hb]
  | .refused _, _, _, _, _, _, _, hb => by simp [Step.run, accepted, hb]
  | .group k body goOn verdict, hs, b, base, had, members, hbase, hb => by
    have hstage : b.stage = .filtering := (FilterState.mk.inj hb).2.2.1
    obtain ⟨hlate, -⟩ | ⟨-, hopen⟩ := b.openGroup_cases k
    · exact absurd hstage hlate
    · have hinner := Step.runAll_level goOn body hs
        (by simp [opensLevel, Fragment.endsOpen]) (filterState_opened hb k)
      have hopen : Builder.openGroup k b = .ok _ := hopen
      have hstage' := (FilterState.mk.inj hinner).2.2.1
      simp only [Step.run, hopen, accepted_group]
      rw [List.nil_append] at hinner
      simp only [Builder.closeGroup, SqlCommand.closeGroup_fst _ _ hstage']
      exact filterState_closed hbase hb k hinner _

/-- Steps without keys keep the level, with what they have added by the replies to them. -/
theorem Step.runAll_level (goOn : Bool) : (steps : List Step) → Step.allKeyless steps →
    ∀ {b : SqlCommand} {base : List Fragment} {had : Bool} {members : List Restriction},
    opensLevel base → b.filterState = .level base had members →
    (Step.runAll goOn steps b).after.filterState =
      .level base had (members ++ acceptedAll steps (Step.runAll goOn steps b).reply)
  | [], _, _, _, _, _, _, hb => by simp [Step.runAll, acceptedAll, hb]
  | s :: rest, hs, b, _, _, members, hbase, hb => by
    obtain ⟨hs, hrest⟩ := Bool.and_eq_true_iff.1 hs
    have hhead := Step.run_level s hs hbase hb
    by_cases hstop : (!goOn && (s.run b).reply.error?.isSome) = true
    · simp [Step.runAll, hstop, acceptedAll, hhead]
    · have htail := Step.runAll_level goOn rest hrest hbase hhead
      simp [Step.runAll, hstop, acceptedAll, htail]

end

namespace Outline

/-- The stage that an outline has come to. -/
def stage (o : Outline) : Stage :=
  if !o.sortKeys.isEmpty then .ordering else if !o.groupKeys.isEmpty then .grouping else .filtering

/-- The place of a list of keys that comes after some fragments. -/
def keyPlace (earlier keys : List Fragment) : Option Nat :=
  if keys.isEmpty then none else some (earlier.length + 1)

/-- The filter part of the command that an outline stands for. -/
def filterState (o : Outline) : FilterState :=
  { filter := o.fragments
    hasConditions := !o.conditions.isEmpty
    stage := o.stage
    groupPlace := keyPlace o.conditionFragments o.groupKeys
    sortPlace := keyPlace (o.conditionFragments ++ keyClause "GROUP BY" o.groupKeys) o.sortKeys }

theorem stage_eq_filtering_iff (o : Outline) :
    o.stage = .filtering ↔ o.groupKeys = [] ∧ o.sortKeys = [] := by
  unfold stage
  cases o.groupKeys <;> cases o.sortKeys <;> simp

/-- Before the first key the whole filter is one level. -/
theorem filterState_of_filtering {o : Outline} (h : o.stage = .filtering) :
    o.filterState = .level [] false o.conditions := by
  obtain ⟨hgroup, hsort⟩ := o.stage_eq_filtering_iff.1 h
  simp [filterState, FilterState.level, fragments, conditionFragments, h, hgroup, hsort, keyClause,
    keyPlace]

/-- Conditions that come before the first key extend the level. -/
theorem filterState_add {o : Outline} (h : o.stage = .filtering) (rs : List Restriction) :
    ({ o with conditions := o.conditions ++ rs } : Outline).filterState =
      .level [] false (o.conditions ++ rs) :=
  filterState_of_filtering (o := { o with conditions := o.conditions ++ rs }) h

/-- The list for a key is the one behind the keyword, whether it is there already or not. -/
theorem withList_keyClause (keyword : String) (earlier keys : List Fragment) :
    SqlCommand.withList keyword (keyPlace earlier keys) (earlier ++ keyClause keyword keys) =
      (earlier ++ [.word keyword, .commaSeparated keys], earlier.length + 1) := by
  cases keys <;> simp [SqlCommand.withList, keyPlace, keyClause]

/-- A key comes to the end of its list. -/
theorem pushAt_keyClause (keyword : String) (earlier keys : List Fragment) (key : Fragment) :
    Fragment.pushAt key (earlier.length + 1) (earlier ++ [.word keyword, .commaSeparated keys]) =
      some (earlier ++ keyClause keyword (keys ++ [key])) := by
  have h := SqlCommand.pushAt_append key ", " keys [] (earlier ++ [.word keyword])
  simpa [keyClause, Fragment.commaSeparated] using h

end Outline

section Whole
variable {b : SqlCommand} {o : Outline}

theorem record_of_failed (o : Outline) (c : Call) (hc : c ≠ .clear) (e : CommandError) :
    o.record (.call c) (.failed e) = o := by
  cases c <;> simp_all [Outline.record, accepted]

theorem record_of_leavesFilter (o : Outline) {c : Call} (hc : c.leavesFilter) (r : Reply) :
    o.record (.call c) r = o := by
  cases c <;> simp_all [Call.leavesFilter, Outline.record, accepted]

/-- A grouping key is refused after sort keys, and else comes to the end of its list. -/
theorem filterState_groupBy (hb : b.filterState = o.filterState) (column : String)
    (term : Option String) :
    (b.groupBy column term).2.filterState =
      (o.record (.call (.groupBy column term))
        (.ofResult (b.groupBy column term).1)).filterState := by
  obtain ⟨hfilter, hhas, hstage, hgroup, hsort⟩ := FilterState.mk.inj hb
  unfold SqlCommand.groupBy
  by_cases hkeys : o.sortKeys = []
  · have hadmits : b.stage.admitsGrouping = .ok () := by
      rw [Stage.admitsGrouping_eq_ok_iff, hstage, Outline.stage, hkeys]
      cases o.groupKeys <;> simp [Stage.rank]
    have hlist : SqlCommand.withList "GROUP BY" b.groupPlace b.filter =
        (o.conditionFragments ++ [.word "GROUP BY", .commaSeparated o.groupKeys],
          o.conditionFragments.length + 1) := by
      rw [hgroup, hfilter, ← Outline.withList_keyClause]
      simp [Outline.fragments, hkeys, Outline.keyClause]
    rw [hadmits, hlist]
    simp only [SqlCommand.pushKey, Outline.pushAt_keyClause]
    simp [SqlCommand.filterState, Outline.record, Reply.ofResult, Outline.filterState,
      Outline.fragments, Outline.conditionFragments, Outline.stage, Outline.keyPlace, hkeys, hhas,
      hsort, Outline.keyClause]
  · have hlate : b.stage = .ordering := by
      rw [hstage, Outline.stage]
      simp [hkeys]
    simp [hlate, Stage.admitsGrouping, Reply.ofResult, record_of_failed, hb]

/-- A sort key comes to the end of its list. -/
theorem filterState_sortBy (hb : b.filterState = o.filterState) (column : String)
    (term : Option String) (order : SortOrder) (nulls : NullsPlace) :
    (b.sortBy column term order nulls).2.filterState =
      (o.record (.call (.sortBy column term order nulls))
        (.ofResult (b.sortBy column term order nulls).1)).filterState := by
  obtain ⟨hfilter, hhas, -, hgroup, hsort⟩ := FilterState.mk.inj hb
  have hlist := Outline.withList_keyClause "ORDER BY"
    (o.conditionFragments ++ Outline.keyClause "GROUP BY" o.groupKeys) o.sortKeys
  unfold SqlCommand.sortBy
  rw [hsort, hfilter]
  simp only [Outline.filterState, Outline.fragments] at hlist ⊢
  rw [hlist]
  simp only [SqlCommand.pushKey, Outline.pushAt_keyClause]
  simp [SqlCommand.filterState, Outline.record, Reply.ofResult, hhas, hgroup,
    Outline.conditionFragments, Outline.stage, Outline.keyPlace]

/-- What a step adds to the one level that the filter is before the first key. -/
theorem filterState_run_of_filtering (hb : b.filterState = o.filterState) (h : b.stage = .filtering)
    (s : Step) (hs : s.keyless)
    (hrecord : ∀ r, o.record s r = { o with conditions := o.conditions ++ accepted s r }) :
    (s.run b).after.filterState = (o.record s (s.run b).reply).filterState := by
  have hstage : o.stage = .filtering := (FilterState.mk.inj hb).2.2.1 ▸ h
  rw [hrecord, Outline.filterState_add hstage]
  exact Step.run_level s hs rfl (hb.trans (Outline.filterState_of_filtering hstage))

/-- Every call does to the outline, by its reply, what it does to the filter. -/
theorem filterState_call_outline (hb : b.filterState = o.filterState) (c : Call) :
    ((Step.call c).run b).after.filterState =
      (o.record (.call c) ((Step.call c).run b).reply).filterState := by
  by_cases hc : c.leavesFilter = true
  · rw [record_of_leavesFilter o hc, ← hb]
    exact SqlCommand.filterState_call hc b
  cases c with
  | condition k c =>
    obtain ⟨e, h⟩ | ⟨hstage, -⟩ := b.restrict_cases k c
    · have h : Builder.call (.condition k c) b = (.error e, b) := h
      simp [Step.run, h, Reply.ofResult, record_of_failed, hb]
    · exact filterState_run_of_filtering hb hstage _ rfl fun _ => rfl
  | verbatim k text args =>
    obtain ⟨e, h⟩ | ⟨hstage, -⟩ := b.restrictVerbatim_cases k text args
    · have h : Builder.call (.verbatim k text args) b = (.error e, b) := h
      simp [Step.run, h, Reply.ofResult, record_of_failed, hb]
    · exact filterState_run_of_filtering hb hstage _ rfl fun _ => rfl
  | groupBy column term => exact filterState_groupBy hb column term
  | sortBy column term order nulls => exact filterState_sortBy hb column term order nulls
  | clear => rfl
  | _ => exact absurd rfl hc

/-- Every step whose groups hold nothing but conditions does to the outline, by its reply, what it
does to the filter. -/
theorem Step.run_outline (hb : b.filterState = o.filterState) :
    ∀ s : Step, s.groupsKeyless →
      (s.run b).after.filterState = (o.record s (s.run b).reply).filterState
  | .call c, _ => filterState_call_outline hb c
  | .render request d quote, _ => by
    have h : (Builder.render request d quote b).after.filterState = b.filterState :=
      SqlCommand.filterState_render request d quote b
    simp [Step.run, Outline.record, accepted, h, hb]
  | .ask _, _ => by simp [Step.run, Outline.record, accepted, hb]
  | .refused _, _ => by simp [Step.run, Outline.record, accepted, hb]
  | .group k body goOn verdict, hs => by
    obtain ⟨-, e, hopen⟩ | ⟨hstage, -⟩ := b.openGroup_cases k
    · have hopen : Builder.openGroup k b = .error e := hopen
      simp [Step.run, hopen, Outline.record, accepted_group, Except.isOk, Except.toBool, hb]
    · exact filterState_run_of_filtering hb hstage (.group k body goOn verdict) hs fun _ => rfl

/-- A run does to the outline, by its replies, what it does to the filter. -/
theorem Step.runAll_outline (goOn : Bool) : ∀ (steps : List Step) {b : SqlCommand} {o : Outline},
    steps.all Step.groupsKeyless → b.filterState = o.filterState →
    (Step.runAll goOn steps b).after.filterState =
      (o.observe steps (Step.runAll goOn steps b).reply).filterState
  | [], _, _, _, hb => hb
  | s :: rest, b, o, hs, hb => by
    simp only [List.all_cons, Bool.and_eq_true] at hs
    have hhead := Step.run_outline hb s hs.1
    by_cases hstop : (!goOn && (s.run b).reply.error?.isSome) = true
    · simp [Step.runAll, hstop, Outline.observe, hhead]
    · have htail := Step.runAll_outline goOn rest hs.2 hhead
      simp [Step.runAll, hstop, Outline.observe, htail]

end Whole

/-- The filter in a statement is the clause of the outline. -/
theorem filterText_eq_clause {b : SqlCommand} {o : Outline} (hb : b.filterState = o.filterState)
    (s : Style) : b.filterText s = o.clause s := by
  obtain ⟨hfilter, hhas, -⟩ := FilterState.mk.inj hb
  rw [SqlCommand.filterText, Outline.clause, hfilter, hhas]
  cases o.conditions <;> rfl

/-- The filter of a relational command is the flat form of the tree of conditions that its script
was allowed to build, and of the keys behind it. The flag says whether the tree holds anything, and
every statement but an insert ends with the clause of the outline, which has its keyword exactly
if the tree holds anything. -/
theorem filter_refines_outline (goOn : Bool) (steps : List Step)
    (h : steps.all Step.groupsKeyless = true) (target : Target) :
    let run := Step.runAll goOn steps ({ target } : SqlCommand)
    let outline := Outline.observe {} steps run.reply
    run.after.filter = outline.fragments ∧
      run.after.hasConditions = !outline.conditions.isEmpty ∧
      ∀ (request : Request) (d : Dialect) (quote : Bool), request.operation ≠ .insert →
        (run.after.render request d quote).result =
          (({ run.after with filter := [] } : SqlCommand).render request d quote).result.map
            (· ++ outline.clause (run.after.filterStyle request d quote)) := by
  intro run outline
  have hrun : run.after.filterState = outline.filterState := Step.runAll_outline goOn steps h rfl
  obtain ⟨hfilter, hhas, -⟩ := FilterState.mk.inj hrun
  refine ⟨hfilter, hhas, fun request d quote hinsert => ?_⟩
  rw [← filterText_eq_clause hrun]
  exact SqlCommand.render_result_append request hinsert d quote run.after

/-- Conditions around a group that fails half-way, a negated group with a dropped group in it, and
keys of both kinds. -/
def nestedScript : List Step := [
  .call (.condition {} ⟨"a", none, .operand .eq (.int 1)⟩),
  .group {} [.call (.condition {} ⟨"x", none, .operand .eq (.int 2)⟩),
    .call (.condition {} ⟨"y", none, .oneOf false [] none⟩)] false (.ok ()),
  .group { alternative := true, negated := true } [
    .group {} [] false (.ok ()),
    .call (.verbatim { negated := true } "b > ?" [.int 3])] false (.ok ()),
  .call (.groupBy "c" none),
  .call (.sortBy "d" none .desc .default)]

theorem filter_refines_outline_nestedScript :
    nestedScript.all Step.groupsKeyless = true ∧
      (Step.runAll true nestedScript ({ target := { table := "t" } } : SqlCommand)).after.filter =
        (Outline.observe {} nestedScript
          (Step.runAll true nestedScript
            ({ target := { table := "t" } } : SqlCommand)).reply).fragments :=
  ⟨rfl, (filter_refines_outline true nestedScript rfl { table := "t" }).1⟩

end DataCommand
