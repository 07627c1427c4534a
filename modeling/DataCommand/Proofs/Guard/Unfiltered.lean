import DataCommand.Dialect.Builtin
import DataCommand.Proofs.Guard.Flag
import DataCommand.Proofs.Guard.Holds
import DataCommand.Proofs.Rendering

/-!
The guard against mutations without a filter. Without leave to change every row, an update or a
deletion that is rendered restricts the rows: always in the families that keep conditions as a list,
and in the relational family exactly as long as no group loses its conditions, which takes a reset
inside the group.
-/

namespace DataCommand

/-- What passes the guard, restricts the rows. -/
def Guarded {σ : Type} [Builder σ] (b : σ) (restricts : Dialect → Bool → Statement → Prop) : Prop :=
  ∀ (request : Request) (d : Dialect) (quote : Bool) (s : Statement),
    request.allowsUnfiltered = false → (Builder.render request d quote b).result = .ok s →
      restricts d quote s

theorem Request.filtered_of_permit {r : Request} {filtered assigns supplies : Bool}
    (hr : r.allowsUnfiltered = false) (h : r.permit filtered assigns supplies = .ok ()) :
    filtered = true := by
  cases filtered with
  | true => rfl
  | false => simp [permit, hr] at h

namespace SqlCommand
variable {b : SqlCommand}

/-- The statement ends with a WHERE clause that has an accepted condition in it. -/
def Restricts (b : SqlCommand) (d : Dialect) (quote : Bool) (s : Statement) : Prop :=
  (∃ head, s.text =
    head ++ " WHERE " ++ ((Fragment.blankSeparated b.filter).write { dialect := d, quote }).text) ∧
    ∃ f ∈ b.filter, f.Accepted

theorem text_filterText (hhas : b.hasConditions = true) (hfilter : b.filter ≠ []) (s : Style) :
    (b.filterText s).text = " WHERE " ++ ((Fragment.blankSeparated b.filter).write s).text := by
  simp [filterText, hhas, hfilter]

/-- The guard does its work exactly if the flag is right. -/
theorem guarded_iff_flagSound (hb : b.filterState.Settled) :
    Guarded b b.Restricts ↔ b.FlagSound := by
  constructor
  · intro h hhas
    have hresult : (b.render (.delete false) .standard false).result =
        .ok ((b.part (.delete false) .standard false).after b.args) := by
      rw [render_result]
      simp [permit, hhas, Request.permit, Request.allowsUnfiltered, Except.map]
    obtain ⟨-, f, hf, haccepted⟩ := h (.delete false) .standard false _ rfl hresult
    exact List.mem_map.2 ⟨f, hf, haccepted.isCondition⟩
  · intro h request d quote s hrequest hresult
    have hresult : (b.render request d quote).result = .ok s := hresult
    rw [render_result] at hresult
    obtain ⟨⟨⟩, hpermit, rfl⟩ := Except.eq_of_map_eq_ok hresult
    have hhas : b.hasConditions = true := Request.filtered_of_permit hrequest hpermit
    obtain ⟨f, hf, hcondition⟩ := List.mem_map.1 (h hhas)
    have hfilter : b.filter ≠ [] := List.ne_nil_of_mem hf
    have htext := text_filterText hhas hfilter { dialect := d, quote }
    refine ⟨?_, f, hf, hb.accepted f hf hcondition⟩
    cases request with
    | select => simp [Request.allowsUnfiltered] at hrequest
    | insert => simp [Request.allowsUnfiltered] at hrequest
    | update allow =>
      refine ⟨"UPDATE " ++ d.targetText quote b.target ++ " SET " ++
        ((assignmentList b.assignments).write { dialect := d, quote }).text, ?_⟩
      simp [part, updateText, htext, String.append_assoc]
    | delete allow =>
      refine ⟨"DELETE FROM " ++ d.targetText quote b.target, ?_⟩
      simp [part, deleteText, htext, String.append_assoc]

end SqlCommand

namespace DocumentCommand

/-- The statement has a filter in it that holds an accepted condition. -/
def Restricts (b : DocumentCommand) (d : Dialect) (_quote : Bool) (s : Statement) : Prop :=
  (∃ head tail, s.text = head ++ (filterOf d b.criteria).shell ++ tail) ∧
    ∃ c ∈ b.criteria, c.condition.fault? = none ∧
      (filterOf d b.criteria).Holds (.entry (c.entry d).1 (c.entry d).2)

theorem exists_criterion {b : DocumentCommand} (hb : b.Accepted) {request : Request}
    (hrequest : request.allowsUnfiltered = false) (h : b.permit request = .ok ()) :
    ∃ c ∈ b.criteria, c.condition.fault? = none := by
  have hcriteria := Request.filtered_of_permit hrequest h
  cases hlist : b.criteria with
  | nil => simp [hlist] at hcriteria
  | cons c rest => exact ⟨c, by simp, hb c (by simp [hlist])⟩

theorem guarded {b : DocumentCommand} (hb : b.Accepted) : Guarded b b.Restricts := by
  intro request d quote s hrequest hresult
  have hresult : (b.render request d quote).result = .ok s := hresult
  rw [render_result] at hresult
  obtain ⟨⟨⟩, hpermit, rfl⟩ := Except.eq_of_map_eq_ok hresult
  obtain ⟨c, hc, haccepted⟩ := exists_criterion hb hrequest hpermit
  refine ⟨?_, c, hc, haccepted, holds_filterOf d hc⟩
  cases request with
  | select => simp [Request.allowsUnfiltered] at hrequest
  | insert => simp [Request.allowsUnfiltered] at hrequest
  | update allow =>
    refine ⟨d.targetText quote b.target ++ "." ++ "updateMany" ++ "(", ", " ++
      (Document.entry "$set" (Assignment.object b.assignments)).shell ++ ")", ?_⟩
    simp [part, updateText, methodCall, filter, Document.shellStatement, String.append_assoc]
  | delete allow =>
    refine ⟨d.targetText quote b.target ++ "." ++ "deleteMany" ++ "(", ")", ?_⟩
    simp [part, deleteText, methodCall, filter, Document.shellStatement]

end DocumentCommand

namespace SearchCommand

/-- The statement has a query in it that holds an accepted condition. -/
def Restricts (b : SearchCommand) (d : Dialect) (_quote : Bool) (s : Statement) : Prop :=
  (∃ head tail, s.text = head ++ (queryOf d b.content.criteria).json ++ tail) ∧
    ∃ c ∈ b.content.criteria, c.condition.fault? = none ∧
      (queryOf d b.content.criteria).Holds (c.query d)

/-- A value of an object is found in its text. -/
theorem exists_json_object (key : String) (d : Document Value)
    (rest : List (String × Document Value)) :
    ∃ head tail, (Document.object ((key, d) :: rest)).json = head ++ d.json ++ tail := by
  cases rest with
  | nil =>
    refine ⟨"\x7b" ++ (Text.jsonQuoted key ++ ":"), "\x7d", ?_⟩
    simp [Document.json, Document.jsonEntries, Text.join, String.append_assoc]
  | cons e rest =>
    refine ⟨"\x7b" ++ (Text.jsonQuoted key ++ ":"),
      "," ++ Text.join "," (Document.jsonEntries (e :: rest)) ++ "\x7d", ?_⟩
    obtain ⟨key', d'⟩ := e
    simp [Document.json, Document.jsonEntries, Text.join, String.append_assoc]

theorem guarded {b : SearchCommand} (hb : b.content.Accepted) : Guarded b b.Restricts := by
  intro request d quote s hrequest hresult
  obtain ⟨hpermit, e, -, rfl⟩ := render_eq_ok_iff.1 hresult
  obtain ⟨c, hc, haccepted⟩ := DocumentCommand.exists_criterion hb hrequest hpermit
  refine ⟨?_, c, hc, haccepted, holds_queryOf d hc⟩
  have hbody : ∃ head tail, (body d b.content request).json =
      head ++ (queryOf d b.content.criteria).json ++ tail := by
    cases request with
    | select => simp [Request.allowsUnfiltered] at hrequest
    | insert => simp [Request.allowsUnfiltered] at hrequest
    | update allow => exact exists_json_object _ _ _
    | delete allow => exact exists_json_object _ _ _
  obtain ⟨head, tail, hbody⟩ := hbody
  refine ⟨e.text ++ " " ++ head, tail, ?_⟩
  rw [Statement.text_after, text_part, hbody]
  simp [String.append_assoc]

end SearchCommand

/-- A session in which nothing has been done yet. -/
def Session.fresh : Session SqlCommand := ⟨{}, []⟩

/-- Every mutation that is rendered without leave to change all rows restricts the rows. In the
relational family that holds all along a run exactly if no group that is closed in it loses its
conditions, and so in every run that resets the command only outside of groups; in the other
families it always holds. -/
theorem guarded_iff_no_group_loses (moves : List Move) :
    ((∀ before, before <+: moves →
        Guarded (Session.fresh.run before).command (Session.fresh.run before).command.Restricts) ↔
      ∀ before verdict, before ++ [.closeGroup verdict] <+: moves →
        (Session.fresh.run before).loses verdict = false) ∧
    ((∀ before, before ++ [.call .clear] <+: moves → (Session.fresh.run before).marks = []) →
      ∀ before, before <+: moves →
        Guarded (Session.fresh.run before).command (Session.fresh.run before).command.Restricts) ∧
    (∀ b : DocumentCommand, Reachable {} b → Guarded b b.Restricts) ∧
    ∀ (layout : PathLayout) (b : SearchCommand), Reachable { layout } b →
      Guarded b b.Restricts := by
  have hguarded : ∀ before : List Move,
      Guarded (Session.fresh.run before).command (Session.fresh.run before).command.Restricts ↔
        (Session.fresh.run before).command.FlagSound :=
    fun before => SqlCommand.guarded_iff_flagSound (SqlCommand.settled_of_reachable ⟨before, rfl⟩)
  have hfresh : Session.fresh.Kept := ⟨by simp [SqlCommand.FlagSound, Session.fresh], trivial⟩
  refine ⟨⟨fun h before verdict hbefore => ?_, fun h before hbefore => ?_⟩,
    fun h before hbefore => ?_,
    fun b hb => DocumentCommand.guarded (DocumentCommand.accepted_of_reachable hb),
    fun layout b hb => SearchCommand.guarded (SearchCommand.accepted_of_reachable hb)⟩
  · have hsound := (hguarded _).1 (h _ hbefore)
    rw [Session.run_append] at hsound
    cases hloses : (Session.fresh.run before).loses verdict with
    | false => rfl
    | true => exact absurd hsound (Session.not_flagSound_of_loses hloses)
  · refine (hguarded before).2 (Session.flagSound_run before hfresh.flag fun xs verdict hxs => ?_)
    exact h xs verdict (hxs.trans hbefore)
  · refine (hguarded before).2 (Session.kept_run before hfresh fun xs hxs => ?_).flag
    exact h xs (hxs.trans hbefore)

/-- A condition, and a group that is reset inside and then fails. -/
def emptiedGroup : List Move := [
  .call (.setTarget { table := "t" }),
  .call (.condition {} ⟨"a", none, .operand .eq (.int 1)⟩),
  .openGroup {},
  .call .clear,
  .closeGroup (.error (.invalid (.other "no"))),
  .call (.setTarget { table := "t" })]

/-- Every row is deleted after a group was emptied. -/
example :
    ((Session.fresh.run emptiedGroup).command.render (.delete false) .standard false).result =
      .ok ⟨"DELETE FROM t", []⟩ := by
  rfl

/-- A condition, and a group that fails with a condition in it. -/
def failedGroup : List Move := [
  .call (.setTarget { table := "t" }),
  .call (.condition {} ⟨"a", none, .operand .eq (.int 1)⟩),
  .openGroup { alternative := true },
  .call (.condition {} ⟨"b", none, .operand .eq (.int 2)⟩),
  .closeGroup (.error (.invalid (.other "no")))]

theorem guarded_iff_no_group_loses_failedGroup :
    (∀ before, before <+: failedGroup →
      Guarded (Session.fresh.run before).command (Session.fresh.run before).command.Restricts) ∧
    ¬ ∀ before, before <+: emptiedGroup →
      Guarded (Session.fresh.run before).command (Session.fresh.run before).command.Restricts := by
  refine ⟨(guarded_iff_no_group_loses failedGroup).2.1 fun before hbefore => ?_, fun h => ?_⟩
  · have hmem : Move.call .clear ∈ failedGroup := hbefore.subset (by simp)
    simp [failedGroup] at hmem
  · have hloses := (guarded_iff_no_group_loses emptiedGroup).1.1 h (emptiedGroup.take 4)
      (.error (.invalid (.other "no"))) ⟨[.call (.setTarget { table := "t" })], rfl⟩
    have htrue : (Session.fresh.run (emptiedGroup.take 4)).loses
      (.error (.invalid (.other "no"))) = true := rfl
    rw [htrue] at hloses
    exact absurd hloses (by simp)

end DataCommand
