import DataCommand.CommandFile.Render
import DataCommand.Proofs.CommandFile.Filling
import DataCommand.Proofs.Window

/-!
Rendering a planned file for a relational backend. What a plan does not rule out is a late fault of
its entries, a mutation without any condition and without leave for that, and a window with a bound
that does not fit an argument. Nothing else keeps a planned file from being rendered.
-/

namespace DataCommand

/-! ### Windows -/

namespace Dialect

/-- The first bound of a window that does not fit an argument. -/
def boundFault? (d : Dialect) (w : RowWindow) : Option Nat :=
  (window d.windowForm "" w.start w.limit).2.find? fun n : Nat => !Number.fitsWord n

/-- The bounds do not depend on the query. -/
theorem bounds_window (form : WindowForm) (query : String) (start limit : UInt64) :
    (window form query start limit).2 = (window form "" start limit).2 := by
  cases form <;> simp only [window] <;> repeat' split
  all_goals rfl

/-- A window fails at its first bound that does not fit, whatever the query. -/
theorem windowed_eq_error_iff (d : Dialect) (q : Statement) (w : RowWindow) (e : CommandError) :
    d.windowed q w.start w.limit = .error e ↔
      ∃ n, d.boundFault? w = some n ∧ e = .invalid (.outOfRange n) := by
  simp only [windowed_eq, boundFault?, bounds_window _ q.text]
  cases (window d.windowForm "" w.start w.limit).2.find? fun n : Nat => !Number.fitsWord n with
  | none => simp
  | some n => simp [eq_comm]

end Dialect

/-! ### Requests -/

namespace CommandFile

/-- The file is a mutation without any condition, and without leave for that. -/
def lacksFilter (file : CommandFile) : Bool :=
  match file.operation with
  | .update | .delete => !file.allowUnfiltered && !FilterEntry.anyIsEffective file.filter
  | .select | .insert => false

/-- What a plan consists of. -/
theorem exists_parts {file : CommandFile} {p : Plan} (h : file.plan = .ok p) :
    ∃ projections filter, file.projections.mapM ProjectionEntry.step = .ok projections ∧
      FilterEntry.steps file.filter = .ok filter ∧ file.request = .ok p.request ∧
      file.checkWindow = .ok () ∧
      p.steps = .call (.setTarget file.target) :: (projections ++ filter ++ file.trailing) ∧
      p.window = file.window := by
  obtain ⟨_, -, h⟩ := Except.exists_of_bind_eq_ok h
  obtain ⟨projections, hprojections, h⟩ := Except.exists_of_bind_eq_ok h
  obtain ⟨filter, hfilter, h⟩ := Except.exists_of_bind_eq_ok h
  obtain ⟨request, hrequest, h⟩ := Except.exists_of_bind_eq_ok h
  obtain ⟨_, hwindow, h⟩ := Except.exists_of_bind_eq_ok h
  obtain rfl := Except.ok.inj h
  exact ⟨projections, filter, hprojections, hfilter, hrequest, hwindow, rfl, rfl⟩

/-- Only queries have windows. -/
theorem window_eq_none_of_lacksFilter {file : CommandFile} (hwindow : file.checkWindow = .ok ())
    (h : file.lacksFilter = true) : file.window = none := by
  unfold checkWindow at hwindow
  split at hwindow
  · cases hwindow
  · rename_i hselect
    cases hoperation : file.operation <;> simp_all [lacksFilter]

/-- The request of a file is permitted, unless the file lacks a filter. -/
theorem permit_eq {file : CommandFile} {request : Request} (h : file.request = .ok request)
    {o : Outline} {b : SqlCommand}
    (hb : Filling o (file.assignments.map kept) (file.row.map kept) b)
    (ho : o.conditions.isEmpty = !FilterEntry.anyIsEffective file.filter) :
    b.permit request =
      if file.lacksFilter then .error (.unfiltered file.operation.keyword) else .ok () := by
  have hflag : b.hasConditions = !o.conditions.isEmpty := (FilterState.mk.inj hb.outline).2.1
  rw [ho, Bool.not_not] at hflag
  unfold CommandFile.request at h
  unfold SqlCommand.permit lacksFilter
  rw [hflag, hb.assignments, hb.row]
  cases hoperation : file.operation with
  | select =>
    rw [hoperation] at h
    obtain rfl := Except.ok.inj h
    rfl
  | delete =>
    rw [hoperation] at h
    obtain rfl := Except.ok.inj h
    simp [Request.permit, Request.allowsUnfiltered, Request.operation]
  | update =>
    rw [hoperation] at h
    simp only at h
    split at h
    · cases h
    · rename_i hassigned
      obtain rfl := Except.ok.inj h
      simp [Request.permit, Request.allowsUnfiltered, Request.operation, hassigned]
  | insert =>
    rw [hoperation] at h
    simp only at h
    split at h
    · cases h
    · rename_i hsupplied
      split at h
      · cases h
      · obtain rfl := Except.ok.inj h
        simp [Request.permit, Request.allowsUnfiltered, hsupplied]

end CommandFile

/-! ### Files -/

theorem Plan.renderOn_of_failed {σ : Type} [Builder σ] {d : Dialect} {quote : Bool} {p : Plan}
    {b : σ} {e : CommandError} (h : Step.failure? p.steps b = some e) :
    (p.renderOn d quote b).1 = .error e := by
  have h : (Step.runAll false p.steps b).reply.findSome? Reply.error? = some e := h
  simp only [renderOn, h]

theorem Plan.renderOn_of_passes {σ : Type} [Builder σ] {d : Dialect} {quote : Bool} {p : Plan}
    {b after : σ} (h : Step.Passes p.steps b after) :
    (p.renderOn d quote b).1 = (Builder.render p.request d quote after).result.bind (p.wrap d) := by
  obtain ⟨hfailure, rfl⟩ := h
  have hfailure : (Step.runAll false p.steps b).reply.findSome? Reply.error? = none := hfailure
  simp only [renderOn, hfailure]

/-- A rendered statement is only lost to a window with a bound out of range. -/
theorem Plan.wrap_eq_error_iff (p : Plan) (d : Dialect) (s : Statement) (e : CommandError) :
    p.wrap d s = .error e ↔
      ∃ w n, p.window = some w ∧ d.boundFault? w = some n ∧ e = .invalid (.outOfRange n) := by
  have hcount : ∀ cut : Except CommandError Statement,
      (cut.map fun s => if p.count then d.counted s else s) = .error e ↔ cut = .error e := by
    intro cut
    cases cut <;> simp [Except.map]
  unfold wrap
  rw [hcount]
  cases hwindow : p.window with
  | none => simp
  | some w => simpa using d.windowed_eq_error_iff s w e

/-- A file that was accepted and planned is rendered for every relational backend, with four
exceptions. Two of them come up while the command is filled: a blank text in the words of the
caller, and a column that is named twice in a row that is not to be inserted. The others are meant:
a mutation without any condition is refused, and so is a window with a bound out of range. -/
theorem planned_file_fails_iff {file : CommandFile} {env : Environment} {p : Plan}
    (h : (file.expand env >>= CommandFile.plan) = .ok p) {backend : Backend}
    (hfamily : backend.family = .sql) (forceQuote : Bool) :
    Step.failure? p.steps ({} : SqlCommand) = file.lateFault?.map .invalid ∧
      ∀ e, (p.render backend forceQuote).1 = .error e ↔
        match file.lateFault? with
        | some fault => e = .invalid fault
        | none =>
          file.lacksFilter = true ∧ e = .unfiltered file.operation.keyword ∨
            ∃ w n, file.window = some w ∧ backend.dialect.boundFault? w = some n ∧
              e = .invalid (.outOfRange n) := by
  obtain ⟨expanded, hexpanded, hplan⟩ := Except.exists_of_bind_eq_ok h
  obtain ⟨target, -, hfile⟩ := Except.exists_of_bind_eq_ok hexpanded
  obtain rfl := Except.ok.inj hfile
  obtain ⟨projections, filter, hprojections, hfilter, hrequest, hcheck, hsteps, hwindow⟩ :=
    CommandFile.exists_parts hplan
  have hrender : p.render backend forceQuote =
      p.renderOn backend.dialect (forceQuote || p.quote) ({} : SqlCommand) := by
    cases backend <;> first | rfl | cases hfamily
  have hrun := CommandFile.run_steps _ hprojections hfilter target
  have hlate : ({ file with target } : CommandFile).lateFault? = file.lateFault? := rfl
  simp only [← hsteps, hlate] at hrun
  rw [hrender]
  cases hfault : file.lateFault? with
  | some fault =>
    rw [hfault] at hrun
    refine ⟨hrun, fun e => ?_⟩
    rw [Plan.renderOn_of_failed hrun]
    exact ⟨fun he => (Except.error.inj he).symm, fun he => congrArg Except.error he.symm⟩
  | none =>
    rw [hfault] at hrun
    obtain ⟨after, o, hpasses, hfilled, heffective⟩ := hrun
    refine ⟨hpasses.failure, fun e => ?_⟩
    have hpermit := CommandFile.permit_eq hrequest hfilled heffective
    have hresult : (Builder.render p.request backend.dialect (forceQuote || p.quote) after).result =
        _ := after.render_result p.request backend.dialect (forceQuote || p.quote)
    rw [Plan.renderOn_of_passes hpasses, hresult, hpermit]
    have hlacks' : ({ file with target } : CommandFile).lacksFilter = file.lacksFilter := rfl
    rw [hlacks']
    cases hlacks : file.lacksFilter with
    | true =>
      have hnone : file.window = none :=
        CommandFile.window_eq_none_of_lacksFilter hcheck hlacks
      simp [Except.map, Except.bind, hnone, eq_comm]
    | false =>
      simp only [Bool.false_eq_true, if_false, false_and, false_or]
      rw [← hwindow]
      exact p.wrap_eq_error_iff backend.dialect _ e

/-- A query with a row that names a column twice. -/
def repeatedRow : CommandFile :=
  { target := { table := "t" }, row := [⟨"a", .int 1, none⟩, ⟨"a", .int 2, none⟩] }

theorem planned_file_fails_iff_repeatedRow :
    ∃ p, (repeatedRow.expand (fun _ => none) >>= CommandFile.plan) = .ok p ∧
      Step.failure? p.steps ({} : SqlCommand) = some (.invalid (.suppliedTwice "a")) ∧
      (p.render .standard false).1 = .error (.invalid (.suppliedTwice "a")) := by
  have hplan : (repeatedRow.expand (fun _ => none) >>= CommandFile.plan) = .ok _ := rfl
  have hfamily : Backend.standard.family = .sql := rfl
  have h := planned_file_fails_iff hplan hfamily false
  exact ⟨_, hplan, h.1, (h.2 _).2 rfl⟩

end DataCommand
