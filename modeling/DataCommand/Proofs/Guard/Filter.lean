import DataCommand.Proofs.Filter.Frame
import DataCommand.Proofs.Session

/-!
Conditions in the filter of a relational command. A filter is one flat list, so it has to be told
which of its fragments are conditions: they are, and stay, the ones that were accepted as such. Keys
are never put into a condition, as a list of keys stands behind all conditions.
-/

namespace DataCommand

namespace Fragment

/-- The fragment is a condition, by its form. -/
def isCondition : Fragment → Bool
  | .verbatim _ _ => true
  | .joined _ (.column _ _ :: _) => true
  | _ => false

/-- The fragment is a condition as it was accepted. -/
def Accepted (f : Fragment) : Prop :=
  (∃ c : Condition, c.fault? = none ∧ f = c.fragment) ∨
    ∃ text args, Text.isBlank text = false ∧ f = .verbatim text args

theorem Accepted.isCondition {f : Fragment} (h : f.Accepted) : f.isCondition = true := by
  obtain ⟨c, -, rfl⟩ | ⟨text, args, -, rfl⟩ := h
  · rfl
  · rfl

/-- A key at the end of joined fragments does not make a condition of them, nor the reverse. -/
theorem isCondition_push {key : Fragment}
    (hkey : ∀ separator, (joined separator [key]).isCondition = false) (separator : String)
    (items : List Fragment) :
    (joined separator (items ++ [key])).isCondition = (joined separator items).isCondition := by
  cases items with
  | nil => exact hkey separator
  | cons f rest => cases f <;> rfl

/-- The places of the conditions are the same after a key has come. -/
theorem map_isCondition_pushAt {key : Fragment}
    (hkey : ∀ separator, (joined separator [key]).isCondition = false) :
    ∀ (place : Nat) (fs gs : List Fragment), pushAt key place fs = some gs →
      gs.map isCondition = fs.map isCondition
  | _, [], _, h => by simp [pushAt] at h
  | 0, f :: rest, gs, h => by
    cases f with
    | joined separator items =>
      obtain rfl : _ = gs := by simpa [pushAt] using h
      simp [isCondition_push hkey]
    | _ => simp [pushAt] at h
  | n + 1, f :: rest, gs, h => by
    simp only [pushAt, Option.map_eq_some_iff] at h
    obtain ⟨gs', hgs', rfl⟩ := h
    simp [map_isCondition_pushAt hkey n rest gs' hgs']

/-- A key that comes behind all conditions leaves them as they are. -/
theorem mem_of_mem_pushAt {key : Fragment}
    (hkey : ∀ separator, (joined separator [key]).isCondition = false) :
    ∀ (place : Nat) (fs gs : List Fragment), pushAt key place fs = some gs →
      (∀ f ∈ fs.drop place, f.isCondition = false) → ∀ f ∈ gs, f.isCondition = true → f ∈ fs
  | _, [], _, h, _, _, _, _ => by simp [pushAt] at h
  | 0, f :: rest, gs, h, hdrop, g, hg, hcondition => by
    have hkinds := map_isCondition_pushAt hkey 0 (f :: rest) gs h
    have hnone : ∀ g ∈ gs, g.isCondition = false := by
      have hall : (f :: rest).map isCondition = List.replicate (rest.length + 1) false :=
        List.eq_replicate_iff.2 ⟨by simp, by simpa using hdrop⟩
      rw [hall] at hkinds
      exact fun g hg => List.eq_of_mem_replicate (hkinds ▸ List.mem_map_of_mem hg)
    exact absurd (hnone g hg) (by simp [hcondition])
  | n + 1, f :: rest, gs, h, hdrop, g, hg, hcondition => by
    simp only [pushAt, Option.map_eq_some_iff] at h
    obtain ⟨gs', hgs', rfl⟩ := h
    rcases List.mem_cons.1 hg with rfl | hg
    · exact List.mem_cons_self
    · exact List.mem_cons_of_mem _ (mem_of_mem_pushAt hkey n rest gs' hgs' hdrop g hg hcondition)

end Fragment

/-- Keys stand behind all conditions, no condition comes after them, and what looks like a condition
is one. -/
structure FilterState.Settled (s : FilterState) : Prop where
  keysLast : ∀ i, s.groupPlace = some i ∨ s.sortPlace = some i →
    s.stage ≠ .filtering ∧ ∀ f ∈ s.filter.drop i, f.isCondition = false
  accepted : ∀ f ∈ s.filter, f.isCondition = true → f.Accepted

namespace SqlCommand
variable {b : SqlCommand}

theorem isCondition_lead (filter : List Fragment) (k : Connective) :
    ∀ f ∈ lead filter k, f.isCondition = false := by
  intro f hf
  unfold lead at hf
  rcases List.mem_append.1 hf with h | h <;> split at h <;> simp_all [Fragment.isCondition]

theorem settled_append (hb : b.filterState.Settled) (hstage : b.stage = .filtering)
    (k : Connective) {e : Fragment} (he : e.Accepted) : (b.append k e).filterState.Settled where
  keysLast i hi := absurd hstage (hb.keysLast i hi).1
  accepted f hf hcondition := by
    simp only [filterState, append, List.mem_append, List.mem_singleton] at hf
    rcases hf with (hf | hf) | rfl
    · exact hb.accepted f hf hcondition
    · exact absurd (isCondition_lead _ _ f hf) (by simp [hcondition])
    · exact he

theorem settled_pushKey (hb : b.filterState.Settled) {place : Nat}
    (hplace : b.groupPlace = some place ∨ b.sortPlace = some place) {key : Fragment}
    (hkey : ∀ separator, (Fragment.joined separator [key]).isCondition = false) :
    (pushKey place key b).2.filterState.Settled := by
  unfold pushKey
  cases h : Fragment.pushAt key place b.filter with
  | none => exact hb
  | some filter =>
    have hkinds := Fragment.map_isCondition_pushAt hkey place _ _ h
    refine ⟨fun i hi => ⟨(hb.keysLast i hi).1, fun f hf => ?_⟩, fun f hf hcondition => ?_⟩
    · have hmem : f.isCondition ∈ (b.filter.drop i).map Fragment.isCondition := by
        rw [List.map_drop, ← hkinds, ← List.map_drop]
        exact List.mem_map_of_mem hf
      obtain ⟨g, hg, heq⟩ := List.mem_map.1 hmem
      rw [← heq, (hb.keysLast i hi).2 g hg]
    · exact hb.accepted f (Fragment.mem_of_mem_pushAt hkey place _ _ h
        (hb.keysLast place hplace).2 f hf hcondition) hcondition

/-- A list of keys comes to the end of a filter, and brings no condition. -/
theorem withList_append (keyword : String) (place : Option Nat) (filter : List Fragment) :
    ∃ new, (withList keyword place filter).1 = filter ++ new ∧
      ∀ f ∈ new, f.isCondition = false := by
  cases place with
  | some i => exact ⟨[], by simp [withList], by simp⟩
  | none =>
    refine ⟨[.word keyword, .commaSeparated []], rfl, ?_⟩
    simp [Fragment.isCondition, Fragment.commaSeparated]

/-- Behind the place of a list of keys there is no condition. -/
theorem isCondition_withList (keyword : String) {place : Option Nat} (filter : List Fragment)
    (hplace : ∀ i, place = some i → ∀ f ∈ filter.drop i, f.isCondition = false) :
    ∀ f ∈ (withList keyword place filter).1.drop (withList keyword place filter).2,
      f.isCondition = false := by
  cases place with
  | some i => exact hplace i rfl
  | none =>
    intro f hf
    obtain ⟨new, hfilter, hnew⟩ := withList_append keyword none filter
    have hplace : filter.length ≤ (withList keyword none filter).2 := Nat.le_succ _
    rw [hfilter, List.drop_append, List.drop_eq_nil_of_le hplace] at hf
    exact hnew f (List.mem_of_mem_drop hf)

theorem settled_withList (hb : b.filterState.Settled) {stage : Stage} (hstage : stage ≠ .filtering)
    (keyword : String) (place groupPlace sortPlace : Option Nat)
    (hplace : ∀ i, place = some i → b.groupPlace = some i ∨ b.sortPlace = some i)
    (hplaces : ∀ i, groupPlace = some i ∨ sortPlace = some i →
      i = (withList keyword place b.filter).2 ∨ b.groupPlace = some i ∨ b.sortPlace = some i) :
    FilterState.Settled ⟨(withList keyword place b.filter).1, b.hasConditions, stage, groupPlace,
      sortPlace⟩ := by
  have hlast := isCondition_withList keyword b.filter fun i hi => (hb.keysLast i (hplace i hi)).2
  obtain ⟨new, hfilter, hnew⟩ := withList_append keyword place b.filter
  refine ⟨fun i hi => ⟨hstage, ?_⟩, fun f hf hcondition => ?_⟩
  · rcases hplaces i hi with rfl | hi
    · exact hlast
    · simp only [hfilter, List.drop_append]
      intro f hf
      rcases List.mem_append.1 hf with hf | hf
      · exact (hb.keysLast i hi).2 f hf
      · exact hnew f (List.mem_of_mem_drop hf)
  · simp only [hfilter] at hf
    rcases List.mem_append.1 hf with hf | hf
    · exact hb.accepted f hf hcondition
    · exact absurd (hnew f hf) (by simp [hcondition])

theorem settled_call (hb : b.filterState.Settled) (c : Call) :
    (call c b).2.filterState.Settled := by
  by_cases hc : c.leavesFilter = true
  · rwa [filterState_call hc]
  cases c with
  | condition k c =>
    show (b.restrict k c).2.filterState.Settled
    obtain ⟨e, h⟩ | ⟨hstage, hfault, h⟩ := b.restrict_cases k c
    · rwa [h]
    · rw [h]
      exact settled_append hb hstage k (.inl ⟨c, hfault, rfl⟩)
  | verbatim k text args =>
    show (b.restrictVerbatim k text args).2.filterState.Settled
    obtain ⟨e, h⟩ | ⟨hstage, hblank, h⟩ := b.restrictVerbatim_cases k text args
    · rwa [h]
    · rw [h]
      exact settled_append hb hstage k (.inr ⟨text, args, hblank, rfl⟩)
  | groupBy column term =>
    show (b.groupBy column term).2.filterState.Settled
    unfold groupBy
    split
    · exact hb
    · refine settled_pushKey ?_ (.inl rfl) fun _ => rfl
      refine settled_withList hb (show Stage.grouping ≠ .filtering by simp) "GROUP BY" b.groupPlace
        (some _) b.sortPlace (fun i hi => .inl hi) ?_
      rintro i (hi | hi)
      · exact .inl (Option.some.inj hi).symm
      · exact .inr (.inr hi)
  | sortBy column term order nulls =>
    refine settled_pushKey ?_ (.inr rfl) fun _ => rfl
    refine settled_withList hb (show Stage.ordering ≠ .filtering by simp) "ORDER BY" b.sortPlace
      b.groupPlace (some _) (fun i hi => .inr hi) ?_
    rintro i (hi | hi)
    · exact .inr (.inl hi)
    · exact .inl (Option.some.inj hi).symm
  | clear => exact ⟨by simp [call, filterState], by simp [call, filterState]⟩
  | _ => exact absurd rfl hc

theorem settled_step {s t : Session SqlCommand} {m : Move} (h : s.Moved m t)
    (hs : s.command.filterState.Settled) : t.command.filterState.Settled := by
  cases h with
  | called c => exact settled_call hs c
  | rendered | refused | unopened => exact hs
  | opened k hstage =>
    refine ⟨fun i hi => absurd hstage (hs.keysLast i hi).1, fun f hf hcondition => ?_⟩
    simp only [filterState, List.mem_append, List.mem_singleton] at hf
    rcases hf with (hf | hf) | rfl
    · exact hs.accepted f hf hcondition
    · exact absurd (isCondition_lead _ _ f hf) (by simp [hcondition])
    · simp [Fragment.isCondition] at hcondition
  | undone =>
    refine ⟨fun i hi => ⟨(hs.keysLast i hi).1, fun f hf => ?_⟩, fun f hf hcondition => ?_⟩
    · simp only [filterState, undo, List.drop_take] at hf
      exact (hs.keysLast i hi).2 f (List.mem_of_mem_take hf)
    · exact hs.accepted f (List.mem_of_mem_take hf) hcondition
  | closed =>
    refine ⟨fun i hi => ⟨(hs.keysLast i hi).1, fun f hf => ?_⟩, fun f hf hcondition => ?_⟩
    · simp only [filterState, List.drop_append] at hf
      rcases List.mem_append.1 hf with hf | hf
      · exact (hs.keysLast i hi).2 f hf
      · rcases List.mem_singleton.1 (List.mem_of_mem_drop hf) with rfl
        rfl
    · simp only [filterState, List.mem_append, List.mem_singleton] at hf
      rcases hf with hf | rfl
      · exact hs.accepted f hf hcondition
      · simp [Fragment.isCondition] at hcondition

/-- In a command that moves have led to, what looks like a condition is one. -/
theorem settled_of_reachable (h : Reachable ({} : SqlCommand) b) : b.filterState.Settled := by
  obtain ⟨moves, rfl⟩ := h
  exact Session.run_preserves (P := fun s : Session SqlCommand => s.command.filterState.Settled)
    (fun s m => settled_step (s.moved_step m)) moves _
    ⟨by simp [filterState], by simp [filterState]⟩

end SqlCommand

end DataCommand
