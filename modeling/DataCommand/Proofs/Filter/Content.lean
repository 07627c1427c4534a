import DataCommand.Proofs.Filter.Frame
import DataCommand.Proofs.Session

/-!
What can stand in the filter of a relational command. Only a few words, parentheses, accepted
conditions and lists of keys are ever put there, so a property of all of these is a property of
everything that is found in the filter, after any moves, however groups were closed or reset.
-/

namespace DataCommand

/-- A property of all that moves put into a filter. A key comes to the end of joined fragments. -/
structure Fillable (P : Fragment → Prop) : Prop where
  word : ∀ w ∈ ["AND", "OR", "NOT", "GROUP BY", "ORDER BY"], P (.word w)
  openParen : P .openParen
  closeParen : P .closeParen
  condition : ∀ c : Condition, c.fault? = none → P c.fragment
  verbatim : ∀ text args, Text.isBlank text = false → P (.verbatim text args)
  keys : P (.commaSeparated [])
  groupKey : ∀ column term separator items, P (.joined separator items) →
    P (.joined separator (items ++ [.groupKey column (Text.unlessBlank term)]))
  sortKey : ∀ column term order nulls separator items, P (.joined separator items) →
    P (.joined separator (items ++ [.sortKey column (Text.unlessBlank term) order nulls]))

namespace SqlCommand
variable {P : Fragment → Prop} (hP : Fillable P)

theorem forall_pushAt {key : Fragment}
    (hkey : ∀ separator items, P (.joined separator items) →
      P (.joined separator (items ++ [key]))) :
    ∀ (place : Nat) (fs gs : List Fragment), Fragment.pushAt key place fs = some gs →
      (∀ f ∈ fs, P f) → ∀ f ∈ gs, P f := by
  intro place fs
  induction place, fs using Fragment.pushAt.induct with
  | case1 => simp [Fragment.pushAt]
  | case2 separator items rest =>
    intro gs h hfs
    obtain rfl : _ = gs := by simpa [Fragment.pushAt] using h
    simp only [List.forall_mem_cons] at hfs ⊢
    exact ⟨hkey separator items hfs.1, hfs.2⟩
  | case3 f rest hf =>
    intro gs h
    cases f <;> simp_all [Fragment.pushAt]
  | case4 n f rest ih =>
    intro gs h hfs
    simp only [Fragment.pushAt, Option.map_eq_some_iff] at h
    obtain ⟨gs', hgs', rfl⟩ := h
    simp only [List.forall_mem_cons] at hfs ⊢
    exact ⟨hfs.1, ih gs' hgs' hfs.2⟩

theorem forall_pushKey {b : SqlCommand} (hb : ∀ f ∈ b.filter, P f) (place : Nat) {key : Fragment}
    (hkey : ∀ separator items, P (.joined separator items) →
      P (.joined separator (items ++ [key]))) :
    ∀ f ∈ (pushKey place key b).2.filter, P f := by
  unfold pushKey
  cases h : Fragment.pushAt key place b.filter with
  | none => exact hb
  | some filter => exact forall_pushAt hkey place _ _ h hb

include hP

theorem forall_lead (filter : List Fragment) (k : Connective) : ∀ f ∈ lead filter k, P f := by
  have hkeyword : k.keyword = "AND" ∨ k.keyword = "OR" := by
    unfold Connective.keyword
    split <;> simp
  intro f hf
  unfold lead at hf
  rcases List.mem_append.1 hf with h | h <;> split at h
  · simp at h
  · rcases List.mem_singleton.1 h with rfl
    exact hP.word _ (by rcases hkeyword with h | h <;> simp [h])
  · rcases List.mem_singleton.1 h with rfl
    exact hP.word _ (by simp)
  · simp at h

theorem forall_append {b : SqlCommand} (hb : ∀ f ∈ b.filter, P f) (k : Connective) {e : Fragment}
    (he : P e) : ∀ f ∈ (b.append k e).filter, P f := by
  intro f hf
  simp only [append, List.mem_append, List.mem_singleton] at hf
  rcases hf with (hf | hf) | rfl
  · exact hb f hf
  · exact forall_lead hP _ _ f hf
  · exact he

theorem forall_withList {filter : List Fragment} (h : ∀ f ∈ filter, P f) {keyword : String}
    (hkeyword : P (.word keyword)) (place : Option Nat) :
    ∀ f ∈ (withList keyword place filter).1, P f := by
  cases place with
  | some i => exact h
  | none =>
    simp only [withList, List.forall_mem_append, List.forall_mem_cons]
    exact ⟨h, hkeyword, hP.keys, by simp⟩

/-- A call puts nothing else into the filter. -/
theorem forall_call {b : SqlCommand} (hb : ∀ f ∈ b.filter, P f) (c : Call) :
    ∀ f ∈ (call c b).2.filter, P f := by
  by_cases hc : c.leavesFilter = true
  · rwa [(FilterState.mk.inj (filterState_call hc b)).1]
  cases c with
  | condition k c =>
    show ∀ f ∈ (b.restrict k c).2.filter, P f
    obtain ⟨e, h⟩ | ⟨-, hcheck, h⟩ := b.restrict_cases k c
    · rwa [h]
    · rw [h]
      exact forall_append hP hb k (hP.condition c hcheck)
  | verbatim k text args =>
    show ∀ f ∈ (b.restrictVerbatim k text args).2.filter, P f
    obtain ⟨e, h⟩ | ⟨-, hblank, h⟩ := b.restrictVerbatim_cases k text args
    · rwa [h]
    · rw [h]
      exact forall_append hP hb k (hP.verbatim text args hblank)
  | groupBy column term =>
    show ∀ f ∈ (b.groupBy column term).2.filter, P f
    unfold groupBy
    split
    · exact hb
    · exact forall_pushKey (forall_withList hP hb (hP.word _ (by simp)) _) _
        (hP.groupKey column term)
  | sortBy column term order nulls =>
    exact forall_pushKey (forall_withList hP hb (hP.word _ (by simp)) _) _
      (hP.sortKey column term order nulls)
  | clear => simp [call]
  | _ => exact absurd rfl hc

/-- A move puts nothing else into the filter. -/
theorem forall_step {s t : Session SqlCommand} {m : Move} (h : s.Moved m t)
    (hs : ∀ f ∈ s.command.filter, P f) : ∀ f ∈ t.command.filter, P f := by
  cases h with
  | called c => exact forall_call hP hs c
  | rendered | refused | unopened => exact hs
  | opened k =>
    simp only [List.forall_mem_append, List.forall_mem_singleton]
    exact ⟨⟨hs, forall_lead hP _ k⟩, hP.openParen⟩
  | undone => exact fun f hf => hs f (List.mem_of_mem_take hf)
  | closed =>
    simp only [List.forall_mem_append, List.forall_mem_singleton]
    exact ⟨hs, hP.closeParen⟩

/-- Nothing else stands in the filter of a command that moves have led to. -/
theorem forall_mem_filter_of_reachable {b : SqlCommand} (h : Reachable ({} : SqlCommand) b) :
    ∀ f ∈ b.filter, P f := by
  obtain ⟨moves, rfl⟩ := h
  exact Session.run_preserves (P := fun s : Session SqlCommand => ∀ f ∈ s.command.filter, P f)
    (fun s m => forall_step hP (s.moved_step m)) moves _ (by simp)

end SqlCommand

end DataCommand
