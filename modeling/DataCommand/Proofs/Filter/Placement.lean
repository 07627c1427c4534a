import DataCommand.Proofs.Filter.Refinement

/-!
The places of the two lists of keys. A command remembers where in its filter a list stands, and a
group that is undone may cut the filter off before that place. Nothing is put behind a list of keys
but a list of a later stage, so a place is either the one of its own list, at the very end of the
filter, or beyond the end; it never comes to be the place of something else.
-/

namespace DataCommand

namespace Fragment

theorem pushAt_of_length_le (key : Fragment) :
    ∀ (place : Nat) (fs : List Fragment), fs.length ≤ place → pushAt key place fs = none
  | _, [], _ => by simp [pushAt]
  | 0, _ :: _, h => absurd h (by simp)
  | n + 1, _ :: rest, h => by
    simp [pushAt, pushAt_of_length_le key n rest (Nat.le_of_succ_le_succ h)]

end Fragment

/-- A list of keys behind its keyword is the end of the filter and stands in its place, or the
place has gone with it. -/
def KeysAt (keyword : String) (place : Nat) (filter : List Fragment) : Prop :=
  filter.length ≤ place ∨
    ∃ earlier key keys, filter = earlier ++ Outline.keyClause keyword (key :: keys) ∧
      place = earlier.length + 1

/-- A filter that is cut off keeps the list whole or loses its place. -/
theorem KeysAt.take {keyword : String} {place : Nat} {filter : List Fragment}
    (h : KeysAt keyword place filter) (n : Nat) : KeysAt keyword place (filter.take n) := by
  obtain hgone | ⟨earlier, key, keys, rfl, rfl⟩ := h
  · left
    rw [List.length_take]
    omega
  · by_cases hn : earlier.length + 2 ≤ n
    · right
      refine ⟨earlier, key, keys, List.take_of_length_le ?_, rfl⟩
      simpa [Outline.keyClause] using hn
    · left
      rw [List.length_take]
      omega

/-- A place is remembered exactly for the lists of the stages that the command has come to, and it
is the place of its list. What was remembered for grouping keys does not matter any more once sort
keys have come. -/
structure FilterState.Tidy (s : FilterState) : Prop where
  filtering : s.stage = .filtering → s.groupPlace = none ∧ s.sortPlace = none
  grouping : s.stage = .grouping →
    s.sortPlace = none ∧ ∃ i, s.groupPlace = some i ∧ KeysAt "GROUP BY" i s.filter
  ordering : s.stage = .ordering → ∃ i, s.sortPlace = some i ∧ KeysAt "ORDER BY" i s.filter

theorem FilterState.Tidy.of_filtering {s : FilterState} (hstage : s.stage = .filtering)
    (hgroup : s.groupPlace = none) (hsort : s.sortPlace = none) : s.Tidy :=
  ⟨fun _ => ⟨hgroup, hsort⟩, by simp [hstage], by simp [hstage]⟩

namespace SqlCommand
variable {b : SqlCommand}

/-- Where the list for a key is: new, or the remembered one. -/
def ListFrom (place : Option Nat) (earlier keys : List Fragment) : Prop :=
  place = none ∧ keys = [] ∨ place = some (earlier.length + 1) ∧ keys ≠ []

/-- A key comes to the end of the list behind its keyword, or its list has gone and the key finds
nothing in its place. -/
theorem pushAt_withList_cases (keyword : String) (key : Fragment) {place : Option Nat}
    {filter : List Fragment} (hplace : ∀ i, place = some i → KeysAt keyword i filter) :
    (∃ earlier keys, ListFrom place earlier keys ∧
        filter = earlier ++ Outline.keyClause keyword keys ∧
        (withList keyword place filter).2 = earlier.length + 1 ∧
        Fragment.pushAt key (withList keyword place filter).2 (withList keyword place filter).1 =
          some (earlier ++ Outline.keyClause keyword (keys ++ [key]))) ∨
      ∃ i, place = some i ∧ filter.length ≤ i := by
  cases place with
  | none =>
    exact .inl ⟨filter, [], .inl ⟨rfl, rfl⟩, by simp [Outline.keyClause], rfl,
      Outline.pushAt_keyClause keyword _ _ _⟩
  | some i =>
    obtain hgone | ⟨earlier, k, keys, rfl, rfl⟩ := hplace i rfl
    · exact .inr ⟨i, rfl, hgone⟩
    · exact .inl ⟨earlier, k :: keys, .inr ⟨rfl, by simp⟩, rfl, rfl,
        Outline.pushAt_keyClause keyword _ _ _⟩

/-- A grouping key is refused without a trace after the filtering stage, or it comes to the end of
the list behind its keyword. -/
theorem groupBy_cases (hb : b.filterState.Tidy) (column : String) (term : Option String) :
    (b.stage ≠ .filtering ∧ ∃ e, b.groupBy column term = (.error e, b)) ∨
      ∃ earlier keys, b.stage.rank ≤ Stage.grouping.rank ∧ ListFrom b.groupPlace earlier keys ∧
        b.filter = earlier ++ Outline.keyClause "GROUP BY" keys ∧
        b.groupBy column term = (.ok (), { b with
          filter := earlier ++
            Outline.keyClause "GROUP BY" (keys ++ [.groupKey column (Text.unlessBlank term)])
          groupPlace := some (earlier.length + 1)
          stage := .grouping }) := by
  unfold groupBy
  cases hadmits : b.stage.admitsGrouping with
  | error e =>
    refine .inl ⟨fun hstage => ?_, e, rfl⟩
    simp [hstage, Stage.admitsGrouping] at hadmits
  | ok =>
    have hrank : b.stage.rank < 2 := (Stage.admitsGrouping_eq_ok_iff _).1 hadmits
    have hplace : ∀ i, b.groupPlace = some i →
        b.stage = .grouping ∧ KeysAt "GROUP BY" i b.filter := by
      intro i hi
      cases hstage : b.stage with
      | filtering => exact absurd ((hb.filtering hstage).1.symm.trans hi) (by simp)
      | grouping =>
        obtain ⟨-, j, hj, hkeys⟩ := hb.grouping hstage
        obtain rfl : j = i := Option.some.inj (hj.symm.trans hi)
        exact ⟨rfl, hkeys⟩
      | ordering => simp [hstage, Stage.rank] at hrank
    obtain ⟨earlier, keys, hfrom, hfilter, hlist, hpush⟩ | ⟨i, hi, hgone⟩ :=
      pushAt_withList_cases "GROUP BY" (.groupKey column (Text.unlessBlank term))
        (fun i hi => (hplace i hi).2)
    · refine .inr ⟨earlier, keys, Nat.le_of_lt_succ hrank, hfrom, hfilter, ?_⟩
      simp only [pushKey, hpush]
      rw [hlist]
    · -- the place is remembered, so the stage is the one that the call would lead to
      refine .inl ⟨by simp [(hplace i hi).1], .invalid .displaced, ?_⟩
      simp only [hi, withList, pushKey, Fragment.pushAt_of_length_le _ i b.filter hgone]
      rw [← hi, ← (hplace i hi).1]

/-- A sort key is refused without a trace after the filtering stage, or it comes to the end of the
list behind its keyword. -/
theorem sortBy_cases (hb : b.filterState.Tidy) (column : String) (term : Option String)
    (order : SortOrder) (nulls : NullsPlace) :
    (b.stage ≠ .filtering ∧ ∃ e, b.sortBy column term order nulls = (.error e, b)) ∨
      ∃ earlier keys, ListFrom b.sortPlace earlier keys ∧
        b.filter = earlier ++ Outline.keyClause "ORDER BY" keys ∧
        b.sortBy column term order nulls = (.ok (), { b with
          filter := earlier ++ Outline.keyClause "ORDER BY"
            (keys ++ [.sortKey column (Text.unlessBlank term) order nulls])
          sortPlace := some (earlier.length + 1)
          stage := .ordering }) := by
  unfold sortBy
  have hplace : ∀ i, b.sortPlace = some i →
      b.stage = .ordering ∧ KeysAt "ORDER BY" i b.filter := by
    intro i hi
    cases hstage : b.stage with
    | filtering => exact absurd ((hb.filtering hstage).2.symm.trans hi) (by simp)
    | grouping => exact absurd ((hb.grouping hstage).1.symm.trans hi) (by simp)
    | ordering =>
      obtain ⟨j, hj, hkeys⟩ := hb.ordering hstage
      obtain rfl : j = i := Option.some.inj (hj.symm.trans hi)
      exact ⟨rfl, hkeys⟩
  obtain ⟨earlier, keys, hfrom, hfilter, hlist, hpush⟩ | ⟨i, hi, hgone⟩ :=
    pushAt_withList_cases "ORDER BY" (.sortKey column (Text.unlessBlank term) order nulls)
      (fun i hi => (hplace i hi).2)
  · refine .inr ⟨earlier, keys, hfrom, hfilter, ?_⟩
    simp only [pushKey, hpush]
    rw [hlist]
  · refine .inl ⟨by simp [(hplace i hi).1], .invalid .displaced, ?_⟩
    simp only [hi, withList, pushKey, Fragment.pushAt_of_length_le _ i b.filter hgone]
    rw [← hi, ← (hplace i hi).1]

theorem keysAt_keyClause (keyword : String) (earlier keys : List Fragment) (key : Fragment) :
    KeysAt keyword (earlier.length + 1) (earlier ++ Outline.keyClause keyword (keys ++ [key])) := by
  right
  cases keys with
  | nil => exact ⟨earlier, key, [], rfl, rfl⟩
  | cons k keys => exact ⟨earlier, k, keys ++ [key], rfl, rfl⟩

theorem tidy_call (hb : b.filterState.Tidy) (c : Call) : (call c b).2.filterState.Tidy := by
  by_cases hc : c.leavesFilter = true
  · rwa [filterState_call hc]
  cases c with
  | condition k c =>
    show (b.restrict k c).2.filterState.Tidy
    obtain ⟨e, h⟩ | ⟨hstage, -, h⟩ := b.restrict_cases k c
    · rwa [h]
    · rw [h]
      exact .of_filtering hstage (hb.filtering hstage).1 (hb.filtering hstage).2
  | verbatim k text args =>
    show (b.restrictVerbatim k text args).2.filterState.Tidy
    obtain ⟨e, h⟩ | ⟨hstage, -, h⟩ := b.restrictVerbatim_cases k text args
    · rwa [h]
    · rw [h]
      exact .of_filtering hstage (hb.filtering hstage).1 (hb.filtering hstage).2
  | groupBy column term =>
    show (b.groupBy column term).2.filterState.Tidy
    obtain ⟨-, e, h⟩ | ⟨earlier, keys, hrank, -, -, h⟩ := groupBy_cases hb column term
    · rwa [h]
    · have hsort : b.sortPlace = none := by
        cases hstage : b.stage with
        | filtering => exact (hb.filtering hstage).2
        | grouping => exact (hb.grouping hstage).1
        | ordering => simp [hstage, Stage.rank] at hrank
      rw [h]
      exact ⟨by simp [filterState],
        fun _ => ⟨hsort, _, rfl, keysAt_keyClause "GROUP BY" earlier keys _⟩,
        by simp [filterState]⟩
  | sortBy column term order nulls =>
    show (b.sortBy column term order nulls).2.filterState.Tidy
    obtain ⟨-, e, h⟩ | ⟨earlier, keys, -, -, h⟩ := sortBy_cases hb column term order nulls
    · rwa [h]
    · rw [h]
      exact ⟨by simp [filterState], by simp [filterState],
        fun _ => ⟨_, rfl, keysAt_keyClause "ORDER BY" earlier keys _⟩⟩
  | clear => exact .of_filtering rfl rfl rfl
  | _ => exact absurd rfl hc

end SqlCommand

namespace Session

theorem tidy_step {s t : Session SqlCommand} {m : Move} (h : s.Moved m t)
    (hs : s.command.filterState.Tidy) : t.command.filterState.Tidy := by
  cases h with
  | called c => exact SqlCommand.tidy_call hs c
  | rendered | refused | unopened => exact hs
  | opened k hstage =>
    exact .of_filtering hstage (hs.filtering hstage).1 (hs.filtering hstage).2
  | undone =>
    refine ⟨hs.filtering, fun hstage => ?_, fun hstage => ?_⟩
    · obtain ⟨hsort, i, hi, hkeys⟩ := hs.grouping hstage
      exact ⟨hsort, i, hi, hkeys.take _⟩
    · obtain ⟨i, hi, hkeys⟩ := hs.ordering hstage
      exact ⟨i, hi, hkeys.take _⟩
  | closed verdict hmarks hundoes =>
    -- a group that is kept has not come to a later stage
    have hstage : s.command.stage = .filtering := by
      have hparts : (verdict.isOk = true ∧ s.command.stage = .filtering) ∧
          Fragment.endsOpen s.command.filter = false := by
        simpa [SqlCommand.undoes] using hundoes
      exact hparts.1.2
    exact .of_filtering hstage (hs.filtering hstage).1 (hs.filtering hstage).2

theorem tidy_run (moves : List Move) {s : Session SqlCommand}
    (hs : s.command.filterState.Tidy) : (s.run moves).command.filterState.Tidy :=
  run_preserves (P := fun s : Session SqlCommand => s.command.filterState.Tidy)
    (fun s m => tidy_step (s.moved_step m)) moves s hs

end Session

theorem SqlCommand.tidy_of_reachable {b : SqlCommand} (h : Reachable ({} : SqlCommand) b) :
    b.filterState.Tidy := by
  obtain ⟨moves, rfl⟩ := h
  exact Session.tidy_run moves (.of_filtering rfl rfl rfl)

/-! ### The order of accepted calls -/

/-- The stage of the clause that a call adds to. -/
def Call.clause? : Call → Option Stage
  | .condition _ _ | .verbatim _ _ _ => some .filtering
  | .groupBy _ _ => some .grouping
  | .sortBy _ _ _ _ => some .ordering
  | _ => none

/-- The keyword and the key of a call that adds a key. -/
def Call.key? : Call → Option (String × Fragment)
  | .groupBy column term => some ("GROUP BY", .groupKey column (Text.unlessBlank term))
  | .sortBy column term order nulls =>
    some ("ORDER BY", .sortKey column (Text.unlessBlank term) order nulls)
  | _ => none

namespace Session
variable {σ : Type} [Builder σ]

/-- The accepted calls after a move, if those before it are `log`. A reset forgets them. -/
def logged (s : Session σ) (log : List Call) : Move → List Call
  | .call .clear => []
  | .call c => if (Builder.call c s.command).1.isOk then log ++ [c] else log
  | _ => log

/-- The calls that were accepted in some moves since the last reset, in the order of time, behind
those of `log`. Calls in a group count, whatever becomes of the group. -/
def log (s : Session σ) (earlier : List Call) : List Move → List Call
  | [] => earlier
  | m :: rest => (s.step m).log (s.logged earlier m) rest

end Session

namespace SqlCommand
variable {b : SqlCommand}

/-- A call that adds to a clause is accepted only up to the stage of the clause, and leads to it. -/
theorem stage_of_accepted (hb : b.filterState.Tidy) {c : Call} {clause : Stage}
    (hc : c.clause? = some clause) (h : (call c b).1.isOk = true) :
    b.stage.rank ≤ clause.rank ∧ (call c b).2.stage = clause := by
  cases c with
  | condition k c =>
    obtain rfl : Stage.filtering = clause := Option.some.inj hc
    obtain ⟨e, hcall⟩ | ⟨hstage, -, hcall⟩ := b.restrict_cases k c
    · simp [call, hcall, Except.isOk, Except.toBool] at h
    · simp [call, hcall, append, hstage]
  | verbatim k text args =>
    obtain rfl : Stage.filtering = clause := Option.some.inj hc
    obtain ⟨e, hcall⟩ | ⟨hstage, -, hcall⟩ := b.restrictVerbatim_cases k text args
    · simp [call, hcall, Except.isOk, Except.toBool] at h
    · simp [call, hcall, append, hstage]
  | groupBy column term =>
    obtain rfl : Stage.grouping = clause := Option.some.inj hc
    obtain ⟨-, e, hcall⟩ | ⟨earlier, keys, hrank, -, -, hcall⟩ := groupBy_cases hb column term
    · simp [call, hcall, Except.isOk, Except.toBool] at h
    · simpa [call, hcall] using hrank
  | sortBy column term order nulls =>
    obtain rfl : Stage.ordering = clause := Option.some.inj hc
    obtain ⟨-, e, hcall⟩ | ⟨earlier, keys, -, -, hcall⟩ := sortBy_cases hb column term order nulls
    · simp [call, hcall, Except.isOk, Except.toBool] at h
    · cases hstage : b.stage <;> simp [call, hcall, Stage.rank]
  | _ => simp [Call.clause?] at hc

/-- No call but a reset leads back to an earlier stage. -/
theorem rank_le_call (hb : b.filterState.Tidy) {c : Call} (hc : c ≠ .clear) :
    b.stage.rank ≤ (call c b).2.stage.rank := by
  by_cases hleaves : c.leavesFilter = true
  · have hstage : (call c b).2.stage = b.stage :=
      (FilterState.mk.inj (filterState_call hleaves b)).2.2.1
    exact Nat.le_of_eq (congrArg Stage.rank hstage.symm)
  cases c with
  | condition k c =>
    show _ ≤ (b.restrict k c).2.stage.rank
    obtain ⟨e, h⟩ | ⟨-, -, h⟩ := b.restrict_cases k c <;> simp [h, append]
  | verbatim k text args =>
    show _ ≤ (b.restrictVerbatim k text args).2.stage.rank
    obtain ⟨e, h⟩ | ⟨-, -, h⟩ := b.restrictVerbatim_cases k text args <;> simp [h, append]
  | groupBy column term =>
    show _ ≤ (b.groupBy column term).2.stage.rank
    obtain ⟨-, e, h⟩ | ⟨earlier, keys, hrank, -, -, h⟩ := groupBy_cases hb column term
    · simp [h]
    · simpa [h] using hrank
  | sortBy column term order nulls =>
    show _ ≤ (b.sortBy column term order nulls).2.stage.rank
    obtain ⟨-, e, h⟩ | ⟨earlier, keys, -, -, h⟩ := sortBy_cases hb column term order nulls
    · simp [h]
    · cases hstage : b.stage <;> simp [h, Stage.rank]
  | clear => exact absurd rfl hc
  | _ => exact absurd rfl hleaves

end SqlCommand

/-- The clauses of accepted calls have come in their order, and none of a stage that is still ahead.
-/
structure InStageOrder (clauses : List Stage) (stage : Stage) : Prop where
  sorted : clauses.Pairwise fun first second => first.rank ≤ second.rank
  reached : ∀ clause ∈ clauses, clause.rank ≤ stage.rank

theorem InStageOrder.mono {clauses : List Stage} {stage later : Stage}
    (h : InStageOrder clauses stage) (hlater : stage.rank ≤ later.rank) :
    InStageOrder clauses later :=
  ⟨h.sorted, fun clause hclause => Nat.le_trans (h.reached clause hclause) hlater⟩

/-- A clause that is not behind the stage comes to the end, and is the new stage. -/
theorem InStageOrder.concat {clauses : List Stage} {stage clause : Stage}
    (h : InStageOrder clauses stage) (hclause : stage.rank ≤ clause.rank) :
    InStageOrder (clauses ++ [clause]) clause := by
  have hle : ∀ earlier ∈ clauses, earlier.rank ≤ clause.rank :=
    fun earlier hearlier => Nat.le_trans (h.reached earlier hearlier) hclause
  refine ⟨List.pairwise_append.2 ⟨h.sorted, List.pairwise_singleton _ _, ?_⟩, ?_⟩
  · simpa using hle
  · simpa [or_imp, forall_and] using hle

namespace Session

/-- A move keeps the order of the accepted calls. -/
theorem inStageOrder_step (s : Session SqlCommand) (hs : s.command.filterState.Tidy)
    (log : List Call) (m : Move) (h : InStageOrder (log.filterMap Call.clause?) s.command.stage) :
    InStageOrder ((s.logged log m).filterMap Call.clause?) (s.step m).command.stage := by
  cases m with
  | call c =>
    show InStageOrder _ (SqlCommand.call c s.command).2.stage
    by_cases hc : c = .clear
    · subst hc
      exact ⟨.nil, by simp [logged]⟩
    have hlog : s.logged log (.call c) =
        if (SqlCommand.call c s.command).1.isOk then log ++ [c] else log := by
      cases c <;> first | rfl | exact absurd rfl hc
    have hmono := h.mono (SqlCommand.rank_le_call hs hc)
    rw [hlog]
    split
    · rename_i hok
      cases hclause : c.clause? with
      | none => simpa [hclause] using hmono
      | some clause =>
        obtain ⟨hrank, hstage⟩ := SqlCommand.stage_of_accepted hs hclause hok
        rw [hstage]
        simpa [hclause] using h.concat hrank
    · exact hmono
  | render request d quote =>
    have hstage := (FilterState.mk.inj (s.command.filterState_render request d quote)).2.2.1
    exact h.mono (Nat.le_of_eq (congrArg Stage.rank hstage.symm))
  | openGroup k =>
    have hmoved := s.moved_step (.openGroup k)
    revert hmoved
    generalize s.step (.openGroup k) = t
    rintro (_ | _ | _ | _)
    · exact h
    · exact h
  | closeGroup verdict =>
    have hmoved := s.moved_step (.closeGroup verdict)
    revert hmoved
    generalize s.step (.closeGroup verdict) = t
    intro hmoved
    cases hmoved <;> exact h

/-- A run keeps the order of the accepted calls. -/
theorem inStageOrder_run : ∀ (moves : List Move) (s : Session SqlCommand),
    s.command.filterState.Tidy → ∀ earlier : List Call,
    InStageOrder (earlier.filterMap Call.clause?) s.command.stage →
    InStageOrder ((s.log earlier moves).filterMap Call.clause?) (s.run moves).command.stage
  | [], _, _, _, h => h
  | m :: rest, s, hs, earlier, h =>
    inStageOrder_run rest (s.step m) (tidy_step (s.moved_step m) hs) _
      (inStageOrder_step s hs earlier m h)

end Session

/-- In every run, and inside of groups as well, the accepted calls since the last reset are
conditions first, then grouping keys, then sort keys. A key that is accepted comes to the end of the
list behind its keyword, and nothing else in the filter changes; a key that is refused changes
nothing at all. -/
theorem keys_in_order_and_place (moves : List Move) :
    let start : Session SqlCommand := ⟨{}, []⟩
    let b := (start.run moves).command
    (((start.log [] moves).filterMap Call.clause?).Pairwise fun first second =>
        first.rank ≤ second.rank) ∧
      ∀ (c : Call) (keyword : String) (key : Fragment), c.key? = some (keyword, key) →
        match SqlCommand.call c b with
        | (.ok (), after) => ∃ earlier keys,
            b.filter = earlier ++ Outline.keyClause keyword keys ∧
              after.filter = earlier ++ Outline.keyClause keyword (keys ++ [key])
        | (.error _, after) => after = b := by
  intro start b
  have hstart : start.command.filterState.Tidy := .of_filtering rfl rfl rfl
  have hb : b.filterState.Tidy := Session.tidy_run moves hstart
  refine ⟨(Session.inStageOrder_run moves start hstart [] ⟨.nil, by simp⟩).sorted, ?_⟩
  intro c keyword key hkey
  cases c with
  | groupBy column term =>
    obtain ⟨rfl, rfl⟩ := Prod.mk.inj (Option.some.inj hkey)
    obtain ⟨-, e, h⟩ | ⟨earlier, keys, -, -, hfilter, h⟩ := SqlCommand.groupBy_cases hb column term
    · simp [SqlCommand.call, h]
    · simp only [SqlCommand.call, h]
      exact ⟨earlier, keys, hfilter, rfl⟩
  | sortBy column term order nulls =>
    obtain ⟨rfl, rfl⟩ := Prod.mk.inj (Option.some.inj hkey)
    obtain ⟨-, e, h⟩ | ⟨earlier, keys, -, hfilter, h⟩ :=
      SqlCommand.sortBy_cases hb column term order nulls
    · simp [SqlCommand.call, h]
    · simp only [SqlCommand.call, h]
      exact ⟨earlier, keys, hfilter, rfl⟩
  | _ => simp [Call.key?] at hkey

/-- A condition, and a group that fails since it has come to a grouping key. The place of the key
is remembered, and the list in it has gone. -/
def displacedRun : List Move := [
  .call (.condition {} ⟨"a", none, .operand .eq (.int 1)⟩),
  .openGroup {},
  .call (.groupBy "x" none),
  .closeGroup (.ok ())]

theorem keys_in_order_and_place_displacedRun :
    let b := (Session.run (⟨{}, []⟩ : Session SqlCommand) displacedRun).command
    (SqlCommand.call (.groupBy "y" none) b).2 = b ∧
      ∃ earlier keys, b.filter = earlier ++ Outline.keyClause "ORDER BY" keys ∧
        (SqlCommand.call (.sortBy "z" none .asc .default) b).2.filter =
          earlier ++ Outline.keyClause "ORDER BY" (keys ++ [.sortKey "z" none .asc .default]) :=
  ⟨(keys_in_order_and_place displacedRun).2 (.groupBy "y" none) _ _ rfl,
    (keys_in_order_and_place displacedRun).2 (.sortBy "z" none .asc .default) _ _ rfl⟩

end DataCommand
