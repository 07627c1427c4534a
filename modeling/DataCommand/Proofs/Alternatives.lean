import DataCommand.Proofs.Meaning.Criteria

/-!
How criteria are cut into alternatives. There is one way only to cut them in front of every OR but
that of the first criterion without an empty run, and `alternatives` is this cut. A scan by
position, which remembers where the open run began and closes it at the next OR and at the end,
finds the same runs.
-/

namespace DataCommand

/-! ### The cut -/

/-- The runs are the criteria, cut in front of every OR but that of the first criterion. -/
structure CutAtOrs (criteria : List Criterion) (runs : List (List Criterion)) : Prop where
  flatten : runs.flatten = criteria
  nonempty : ∀ run ∈ runs, run ≠ []
  /-- Every run but the first begins with an OR. -/
  opened : ∀ run ∈ runs.tail, ∃ c rest, run = c :: rest ∧ c.connective.alternative = true
  /-- No OR stands further back in a run. -/
  joined : ∀ run ∈ runs, ∀ c ∈ run.tail, c.connective.alternative = false

/-- Within a run every criterion but the first is joined to the one in front of it by an AND. -/
theorem isChain_joined_iff : ∀ run : List Criterion,
    (run.IsChain fun _ c => !c.connective.alternative) ↔
      ∀ c ∈ run.tail, c.connective.alternative = false
  | [] => by simp
  | [_] => by simp
  | _ :: d :: rest => by
    rw [List.isChain_cons_cons, isChain_joined_iff (d :: rest)]
    simp

/-- Between two runs stands an OR, which the second one begins with. -/
theorem isChain_opened_iff : ∀ {runs : List (List Criterion)}, (∀ run ∈ runs, run ≠ []) →
    ((runs.IsChain fun before run =>
        ∃ (_ : before ≠ []) (hrun : run ≠ []), (!(run.head hrun).connective.alternative) = false) ↔
      ∀ run ∈ runs.tail, ∃ c rest, run = c :: rest ∧ c.connective.alternative = true)
  | [], _ => by simp
  | [_], _ => by simp
  | before :: run :: runs, h => by
    rw [List.forall_mem_cons] at h
    obtain ⟨hbefore, hruns⟩ := h
    rw [List.isChain_cons_cons, isChain_opened_iff hruns, List.tail_cons, List.tail_cons,
      List.forall_mem_cons]
    refine and_congr_left fun _ => ?_
    cases run with
    | nil => exact absurd rfl (hruns [] (List.mem_cons_self ..))
    | cons c rest => simp [hbefore]

theorem cutAtOrs_iff {criteria : List Criterion} {runs : List (List Criterion)} :
    CutAtOrs criteria runs ↔ runs = alternatives criteria := by
  rw [alternatives_eq_conjunctions, conjunctions, eq_comm (a := runs), List.splitBy_eq_iff]
  constructor
  · intro h
    refine ⟨h.flatten.symm, fun hnil => h.nonempty [] hnil rfl, fun run hrun => ?_, ?_⟩
    · exact (isChain_joined_iff run).2 (h.joined run hrun)
    · exact (isChain_opened_iff h.nonempty).2 h.opened
  · rintro ⟨hflatten, hnil, hjoined, hopened⟩
    have hnonempty : ∀ run ∈ runs, run ≠ [] := fun run hrun hrun' => hnil (hrun' ▸ hrun)
    refine ⟨hflatten.symm, hnonempty, (isChain_opened_iff hnonempty).1 hopened, fun run hrun => ?_⟩
    exact (isChain_joined_iff run).1 (hjoined run hrun)

/-- Nothing is cut into no run. -/
theorem CutAtOrs.eq_nil_iff {criteria : List Criterion} {runs : List (List Criterion)}
    (h : CutAtOrs criteria runs) : runs = [] ↔ criteria = [] := by
  constructor
  · rintro rfl
    exact h.flatten.symm
  · rintro rfl
    refine List.eq_nil_iff_forall_not_mem.2 fun run hrun => h.nonempty run hrun ?_
    exact List.flatten_eq_nil_iff.1 h.flatten run hrun

/-- One more criterion is a run of its own if it is the first one or has an OR. -/
theorem CutAtOrs.concat_opened {criteria : List Criterion} {runs : List (List Criterion)}
    (h : CutAtOrs criteria runs) {c : Criterion}
    (hc : runs = [] ∨ c.connective.alternative = true) :
    CutAtOrs (criteria ++ [c]) (runs ++ [[c]]) := by
  constructor
  · simp [h.flatten]
  · exact List.forall_mem_append.2 ⟨h.nonempty, by simp⟩
  · cases runs with
    | nil => simp
    | cons first runs =>
      have hor := hc.resolve_left (List.cons_ne_nil _ _)
      refine List.forall_mem_append.2 ⟨h.opened, List.forall_mem_singleton.2 ?_⟩
      exact ⟨c, [], rfl, hor⟩
  · exact List.forall_mem_append.2 ⟨h.joined, by simp⟩

/-- One more criterion with an AND belongs to the last run. -/
theorem CutAtOrs.concat_joined {criteria run : List Criterion} {runs : List (List Criterion)}
    (h : CutAtOrs criteria (runs ++ [run])) {c : Criterion}
    (hc : c.connective.alternative = false) :
    CutAtOrs (criteria ++ [c]) (runs ++ [run ++ [c]]) := by
  obtain ⟨hnonempty, hlast⟩ := List.forall_mem_append.1 h.nonempty
  obtain ⟨hjoined, hrest⟩ := List.forall_mem_append.1 h.joined
  rw [List.forall_mem_singleton] at hlast hrest
  constructor
  · simp [← h.flatten]
  · exact List.forall_mem_append.2 ⟨hnonempty, by simp⟩
  · cases runs with
    | nil => simp
    | cons _ runs =>
      obtain ⟨hopened, hrun⟩ := List.forall_mem_append.1 h.opened
      obtain ⟨first, rest, rfl, hor⟩ := List.forall_mem_singleton.1 hrun
      refine List.forall_mem_append.2 ⟨hopened, List.forall_mem_singleton.2 ?_⟩
      exact ⟨first, rest ++ [c], rfl, hor⟩
  · refine List.forall_mem_append.2 ⟨hjoined, List.forall_mem_singleton.2 ?_⟩
    rw [List.tail_append_of_ne_nil hlast]
    exact List.forall_mem_append.2 ⟨hrest, List.forall_mem_singleton.2 hc⟩

/-! ### The scan by position -/

/-- How far a scan has come: the runs that it has closed, and where the open one began. -/
structure RunScan where
  closed : List (List Criterion) := []
  start : Nat := 0

namespace RunScan

/-- Reads the criterion at a position. An OR closes the open run, unless that begins there. -/
def read (criteria : List Criterion) (s : RunScan) (e : Criterion × Nat) : RunScan :=
  if s.start < e.2 ∧ e.1.connective.alternative = true then
    { closed := s.closed ++ [criteria.extract s.start e.2], start := e.2 }
  else s

/-- The runs at the end of the criteria: the open one counts if there is anything in it. -/
def finish (criteria : List Criterion) (s : RunScan) : List (List Criterion) :=
  if s.start < criteria.length then s.closed ++ [criteria.drop s.start] else s.closed

/-- The runs that a scan of all criteria finds. -/
def runs (criteria : List Criterion) : List (List Criterion) :=
  (criteria.zipIdx.foldl (read criteria) {}).finish criteria

section Read
variable {done rest : List Criterion} {s : RunScan} {c : Criterion}

/-- An OR behind the beginning of the open run closes it with all that was read since. -/
theorem read_of_alternative (hopen : s.start < done.length)
    (hor : c.connective.alternative = true) :
    s.read (done ++ c :: rest) (c, done.length) =
      { closed := s.closed ++ [done.drop s.start], start := done.length } := by
  have hslice : (done ++ c :: rest).extract s.start done.length = done.drop s.start := by
    rw [List.extract_eq_take_drop, List.drop_append_of_le_length (Nat.le_of_lt hopen)]
    exact List.take_left' (List.length_drop ..)
  rw [read, if_pos ⟨hopen, hor⟩, hslice]

/-- The first criterion and one with an AND close nothing. -/
theorem read_of_not (h : done = [] ∨ c.connective.alternative = false) :
    s.read (done ++ c :: rest) (c, done.length) = s := by
  refine if_neg ?_
  rintro ⟨hopen, hor⟩
  rcases h with rfl | hand
  · exact absurd hopen (Nat.not_lt_zero _)
  · exact absurd hor (by simp [hand])

/-- What holds after some criteria: the last of them is in the open run, and if nothing came behind
them, the runs would be their cut. -/
structure Valid (done : List Criterion) (s : RunScan) : Prop where
  start_le : s.start ≤ done.length - 1
  cut : CutAtOrs done (s.finish done)

/-- One more criterion keeps a valid scan valid. -/
theorem valid_read (h : s.Valid done) (c : Criterion) (rest : List Criterion) :
    (s.read (done ++ c :: rest) (c, done.length)).Valid (done ++ [c]) := by
  obtain ⟨hstart, hcut⟩ := h
  have hlength : (done ++ [c]).length = done.length + 1 := List.length_append
  rw [finish] at hcut
  by_cases hdone : done = []
  · -- the first criterion opens a run, whatever its connective
    subst hdone
    have hzero : s.start = 0 := Nat.le_zero.1 hstart
    rw [if_neg (by simp)] at hcut
    rw [read_of_not (.inl rfl)]
    refine ⟨by omega, ?_⟩
    rw [finish, if_pos (by omega), hzero]
    exact hcut.concat_opened (.inl (hcut.eq_nil_iff.2 rfl))
  · have hpos : 0 < done.length := List.length_pos_iff.2 hdone
    rw [if_pos (by omega)] at hcut
    cases hor : c.connective.alternative with
    | true =>
      rw [read_of_alternative (by omega) hor]
      refine ⟨by simp, ?_⟩
      rw [finish, if_pos (by simp), List.drop_left]
      exact hcut.concat_opened (.inr hor)
    | false =>
      rw [read_of_not (.inr hor)]
      refine ⟨by omega, ?_⟩
      rw [finish, if_pos (by omega), List.drop_append_of_le_length (by omega)]
      exact hcut.concat_joined hor

end Read

/-- So does any number of them. -/
theorem valid_foldl : ∀ (rest : List Criterion) {done : List Criterion} {s : RunScan},
    s.Valid done → ((rest.zipIdx done.length).foldl (read (done ++ rest)) s).Valid (done ++ rest)
  | [], _, _, h => by simpa using h
  | c :: rest, done, s, h => by
    have hrest := valid_foldl rest (valid_read h c rest)
    rw [List.append_assoc, List.singleton_append, List.length_append,
      List.length_singleton] at hrest
    rwa [List.zipIdx_cons, List.foldl_cons]

/-- The scan of all criteria cuts them. -/
theorem cutAtOrs_runs (criteria : List Criterion) : CutAtOrs criteria (runs criteria) := by
  have hstart : Valid [] {} :=
    { start_le := Nat.le_refl 0
      cut := by constructor <;> simp [finish] }
  exact (valid_foldl criteria hstart).cut

end RunScan

/-- Criteria have one cut in front of their ORs, the alternatives, which are none only if there are
no criteria, and the scan by position finds them. -/
theorem alternatives_only_cut (criteria : List Criterion) :
    (∀ runs, CutAtOrs criteria runs ↔ runs = alternatives criteria) ∧
      (alternatives criteria = [] ↔ criteria = []) ∧
      RunScan.runs criteria = alternatives criteria := by
  have hcut : CutAtOrs criteria (alternatives criteria) := cutAtOrs_iff.2 rfl
  refine ⟨fun _ => cutAtOrs_iff, hcut.eq_nil_iff, ?_⟩
  exact cutAtOrs_iff.1 (RunScan.cutAtOrs_runs criteria)

/-- An OR of the first criterion cuts nothing. -/
example (c d e : Condition) :
    alternatives [⟨{ alternative := true }, c⟩, ⟨{}, d⟩, ⟨{ alternative := true }, e⟩] =
      [[⟨{ alternative := true }, c⟩, ⟨{}, d⟩], [⟨{ alternative := true }, e⟩]] := rfl

end DataCommand
