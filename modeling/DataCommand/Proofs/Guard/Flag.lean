import DataCommand.Proofs.Guard.Filter

/-!
The flag that says whether a relational command has conditions. A group that is undone recalls the
flag from before it, together with as much of the filter as there was. That is right as long as the
filter has not been reset meanwhile; after a reset inside the group, the flag may be recalled
without a condition to go with it.
-/

namespace DataCommand

namespace SqlCommand

/-- Which of the fragments are conditions. -/
def kinds (b : SqlCommand) : List Bool := b.filter.map Fragment.isCondition

/-- The flag is only set if there is a condition. -/
def FlagSound (b : SqlCommand) : Prop := b.hasConditions = true → true ∈ b.kinds

theorem kinds_pushKey (place : Nat) (key : Fragment)
    (hkey : ∀ separator, (Fragment.joined separator [key]).isCondition = false) (b : SqlCommand) :
    (pushKey place key b).2.kinds = b.kinds ∧
      (pushKey place key b).2.hasConditions = b.hasConditions := by
  unfold pushKey
  cases h : Fragment.pushAt key place b.filter with
  | none => exact ⟨rfl, rfl⟩
  | some filter => exact ⟨Fragment.map_isCondition_pushAt hkey place _ _ h, rfl⟩

theorem kinds_withList (keyword : String) (place : Option Nat) (b : SqlCommand) :
    ∃ new, ∀ b' : SqlCommand, b'.filter = (withList keyword place b.filter).1 →
      b'.kinds = b.kinds ++ new := by
  obtain ⟨new, hfilter, -⟩ := withList_append keyword place b.filter
  refine ⟨new.map Fragment.isCondition, fun b' h => ?_⟩
  rw [kinds, h, hfilter, List.map_append, kinds]

theorem kinds_append (k : Connective) {f : Fragment} (hf : f.isCondition = true) (b : SqlCommand) :
    ∃ new, (b.append k f).kinds = b.kinds ++ new ∧ true ∈ new :=
  ⟨(lead b.filter k).map Fragment.isCondition ++ [true], by simp [kinds, append, hf], by simp⟩

/-- A call other than a reset puts something behind the filter, and sets the flag only with a
condition. -/
theorem kinds_call {c : Call} (hc : c ≠ .clear) (b : SqlCommand) :
    ∃ new, (call c b).2.kinds = b.kinds ++ new ∧
      ((call c b).2.hasConditions = true → b.hasConditions = true ∨ true ∈ new) := by
  by_cases hleaves : c.leavesFilter = true
  · obtain ⟨hfilter, hhas, -⟩ := FilterState.mk.inj (filterState_call hleaves b)
    exact ⟨[], by simp [kinds, hfilter], fun h => .inl (hhas ▸ h)⟩
  cases c with
  | condition k c =>
    show ∃ new, (b.restrict k c).2.kinds = _ ∧ ((b.restrict k c).2.hasConditions = true → _)
    obtain ⟨e, h⟩ | ⟨-, hfault, h⟩ := b.restrict_cases k c
    · exact ⟨[], by simp [h], by simp [h]⟩
    · obtain ⟨new, hkinds, hnew⟩ := kinds_append k (show c.fragment.isCondition = true from rfl) b
      rw [h]
      exact ⟨new, hkinds, fun _ => .inr hnew⟩
  | verbatim k text args =>
    show ∃ new, (b.restrictVerbatim k text args).2.kinds = _ ∧
      ((b.restrictVerbatim k text args).2.hasConditions = true → _)
    obtain ⟨e, h⟩ | ⟨-, hblank, h⟩ := b.restrictVerbatim_cases k text args
    · exact ⟨[], by simp [h], by simp [h]⟩
    · obtain ⟨new, hkinds, hnew⟩ := kinds_append k (f := .verbatim text args) rfl b
      rw [h]
      exact ⟨new, hkinds, fun _ => .inr hnew⟩
  | groupBy column term =>
    show ∃ new, (b.groupBy column term).2.kinds = _ ∧
      ((b.groupBy column term).2.hasConditions = true → _)
    unfold groupBy
    split
    · exact ⟨[], by simp, .inl⟩
    · obtain ⟨hkinds, hhas⟩ := kinds_pushKey (withList "GROUP BY" b.groupPlace b.filter).2
        (.groupKey column (Text.unlessBlank term)) (fun _ => rfl) { b with
          filter := (withList "GROUP BY" b.groupPlace b.filter).1
          groupPlace := some (withList "GROUP BY" b.groupPlace b.filter).2
          stage := .grouping }
      obtain ⟨new, hnew⟩ := kinds_withList "GROUP BY" b.groupPlace b
      exact ⟨new, hkinds.trans (hnew _ rfl), fun h => .inl (hhas ▸ h)⟩
  | sortBy column term order nulls =>
    obtain ⟨hkinds, hhas⟩ := kinds_pushKey (withList "ORDER BY" b.sortPlace b.filter).2
      (.sortKey column (Text.unlessBlank term) order nulls) (fun _ => rfl) { b with
        filter := (withList "ORDER BY" b.sortPlace b.filter).1
        sortPlace := some (withList "ORDER BY" b.sortPlace b.filter).2
        stage := .ordering }
    obtain ⟨new, hnew⟩ := kinds_withList "ORDER BY" b.sortPlace b
    exact ⟨new, hkinds.trans (hnew _ rfl), fun h => .inl (hhas ▸ h)⟩
  | clear => exact absurd rfl hc
  | _ => exact absurd rfl hleaves

end SqlCommand

/-- Every open group has recorded a prefix of the filter that still stands, and in it a condition if
there was one. -/
def Framed : List Bool → List GroupMark → Prop
  | _, [] => True
  | kinds, mark :: rest =>
    mark.length ≤ kinds.length ∧ (mark.hadConditions = true → true ∈ kinds.take mark.length) ∧
      Framed (kinds.take mark.length) rest

theorem Framed.append {kinds : List Bool} : ∀ {marks : List GroupMark}, Framed kinds marks →
    ∀ new, Framed (kinds ++ new) marks
  | [], _, _ => trivial
  | mark :: rest, ⟨hlength, hhad, hrest⟩, new => by
    have htake : (kinds ++ new).take mark.length = kinds.take mark.length :=
      List.take_append_of_le_length hlength
    refine ⟨by rw [List.length_append]; omega, ?_, ?_⟩
    · rwa [htake]
    · rwa [htake]

namespace Session

/-- Closing the innermost group takes all conditions away, and yet recalls that there were some. -/
def loses (s : Session SqlCommand) (verdict : Except CommandError Unit) : Bool :=
  match s.marks with
  | [] => false
  | mark :: _ =>
    s.command.undoes verdict && mark.hadConditions && !(s.command.undo mark).kinds.contains true

/-- The flag is right, and stays so however the open groups are closed. -/
structure Kept (s : Session SqlCommand) : Prop where
  flag : s.command.FlagSound
  framed : Framed s.command.kinds s.marks

/-- A kept session does not lose its conditions. -/
theorem Kept.loses_eq_false {s : Session SqlCommand} (hs : s.Kept)
    (verdict : Except CommandError Unit) : s.loses verdict = false := by
  unfold loses
  cases hmarks : s.marks with
  | nil => rfl
  | cons mark rest =>
    obtain ⟨-, hhad, -⟩ := hmarks ▸ hs.framed
    simp only [SqlCommand.undo, SqlCommand.kinds, List.map_take] at hhad ⊢
    cases hmark : mark.hadConditions with
    | false => simp
    | true => simp [hhad hmark]

/-- A move keeps the flag right, unless it closes a group that loses its conditions. -/
theorem flagSound_step {s t : Session SqlCommand} {m : Move} (h : s.Moved m t)
    (hs : s.command.FlagSound)
    (hm : ∀ verdict, m = .closeGroup verdict → s.loses verdict = false) :
    t.command.FlagSound := by
  cases h with
  | called c =>
    by_cases hc : c = .clear
    · subst hc
      intro h
      exact absurd h (by simp [SqlCommand.call])
    · obtain ⟨new, hkinds, hhas⟩ := SqlCommand.kinds_call hc s.command
      intro h
      show true ∈ (SqlCommand.call c s.command).2.kinds
      rw [hkinds, List.mem_append]
      exact (hhas h).imp_left hs
  | rendered | refused | unopened => exact hs
  | opened k =>
    intro hhas
    simp only [SqlCommand.kinds, List.map_append, List.mem_append]
    exact .inl (.inl (hs hhas))
  | @undone verdict mark _ hmarks hundoes =>
    intro hhad
    have hhad : mark.hadConditions = true := hhad
    simpa [loses, hmarks, hundoes, hhad] using hm verdict rfl
  | closed =>
    intro hhas
    simp only [SqlCommand.kinds, List.map_append, List.mem_append]
    exact .inl (hs hhas)

/-- A kept session is kept by every move but a reset inside a group. -/
theorem kept_step {s t : Session SqlCommand} {m : Move} (h : s.Moved m t) (hs : s.Kept)
    (hm : m = .call .clear → s.marks = []) : t.Kept := by
  refine ⟨flagSound_step h hs.flag fun verdict _ => hs.loses_eq_false verdict, ?_⟩
  cases h with
  | called c =>
    by_cases hc : c = .clear
    · simp [hm (by rw [hc]), Framed]
    · obtain ⟨new, hkinds, -⟩ := SqlCommand.kinds_call hc s.command
      show Framed (SqlCommand.call c s.command).2.kinds s.marks
      rw [hkinds]
      exact hs.framed.append new
  | rendered | refused | unopened => exact hs.framed
  | opened k =>
    have hlength : s.command.filter.length = s.command.kinds.length := by
      simp [SqlCommand.kinds]
    simp only [SqlCommand.kinds, List.append_assoc, List.map_append]
    refine ⟨by simp, ?_, ?_⟩
    · rw [hlength, List.take_left']
      · exact hs.flag
      · rfl
    · rw [hlength, List.take_left']
      · exact hs.framed
      · rfl
  | undone verdict hmarks =>
    obtain ⟨-, -, hrest⟩ := hmarks ▸ hs.framed
    simpa [SqlCommand.undo, SqlCommand.kinds, List.map_take] using hrest
  | @closed verdict mark _ hmarks =>
    obtain ⟨-, -, hrest⟩ := hmarks ▸ hs.framed
    have hwhole := hrest.append (s.command.kinds.drop mark.length)
    rw [List.take_append_drop] at hwhole
    simpa [SqlCommand.kinds] using hwhole.append [Fragment.isCondition .closeParen]

/-- A group that loses its conditions leaves the flag wrong. -/
theorem not_flagSound_of_loses {s : Session SqlCommand} {verdict : Except CommandError Unit}
    (h : s.loses verdict = true) : ¬ (s.step (.closeGroup verdict)).command.FlagSound := by
  unfold loses at h
  cases hmarks : s.marks with
  | nil => simp [hmarks] at h
  | cons mark rest =>
    simp only [hmarks, Bool.and_eq_true, Bool.not_eq_true', List.contains_eq_mem,
      decide_eq_false_iff_not] at h
    obtain ⟨⟨hundoes, hhad⟩, hnone⟩ := h
    simp only [Session.step, hmarks, Builder.closeGroup, SqlCommand.closeGroup_snd, hundoes,
      if_true]
    exact fun hsound => hnone (hsound hhad)

/-- The flag is right at the end of a run in which no group loses its conditions. -/
theorem flagSound_run : ∀ (moves : List Move) {s : Session SqlCommand}, s.command.FlagSound →
    (∀ before verdict, before ++ [.closeGroup verdict] <+: moves →
      (s.run before).loses verdict = false) →
    (s.run moves).command.FlagSound
  | [], _, hs, _ => hs
  | m :: rest, s, hs, h =>
    have hstep := flagSound_step (s.moved_step m) hs fun verdict hm => h [] verdict (by simp [hm])
    flagSound_run rest hstep fun before verdict hbefore =>
      h (m :: before) verdict (by simpa using hbefore)

/-- A session is kept at the end of a run without a reset inside a group. -/
theorem kept_run : ∀ (moves : List Move) {s : Session SqlCommand}, s.Kept →
    (∀ before, before ++ [.call .clear] <+: moves → (s.run before).marks = []) → (s.run moves).Kept
  | [], _, hs, _ => hs
  | m :: rest, s, hs, h =>
    have hstep := kept_step (s.moved_step m) hs fun hm => h [] (by simp [hm])
    kept_run rest hstep fun before hbefore => h (m :: before) (by simpa using hbefore)

end Session

end DataCommand
