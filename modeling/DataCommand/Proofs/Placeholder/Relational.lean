import DataCommand.Proofs.Filter.Content
import DataCommand.Proofs.Placeholder.Criterion
import DataCommand.Proofs.Placeholder.Insert
import DataCommand.Proofs.Rendering

/-!
Relational commands and their operands. Moves put nothing with a mark of the library's own into a
command, and the expressions that keys may refer to are those of its projections; so what a command
is rendered as is woven from what it holds, clause by clause.
-/

namespace DataCommand

open Text

/-- The keys of an insert have no marks. -/
def Request.Unmarked : Request → Prop
  | .insert primaryKey _ => ∀ k ∈ primaryKey, marks k = 0
  | _ => True

/-- A condition as a fragment has no marks but those of the caller's texts. -/
theorem Condition.neutral_fragment (c : Condition) : c.fragment.Neutral := by
  have hsymbol : ∀ comparison : Comparison, marks comparison.symbol = 0 := by
    intro comparison
    cases comparison <;> rfl
  obtain ⟨column, term, test⟩ := c
  refine ⟨rfl, (Fragment.allNeutral_iff _).2 ?_⟩
  have hoperands : ∀ f ∈ test.operands, f.Neutral := by
    cases test with
    | compare comparison operand term wildcards =>
      simp only [Test.operands]
      split
      · simp
      · split <;> simp [Fragment.Neutral]
    | within negated low high lowTerm highTerm =>
      simp [Test.operands, Fragment.Neutral, marks]
    | oneOf negated values term =>
      have hvalues : Fragment.AllNeutral (values.map fun v => .bound v (Text.unlessBlank term)) :=
        (Fragment.allNeutral_iff _).2 (by simp [Fragment.Neutral])
      simp [Test.operands, Fragment.Neutral, hvalues, marks]
  simpa [Fragment.Neutral, hsymbol] using hoperands

/-- Nothing with a mark of its own comes into a filter. -/
theorem fillable_neutral : Fillable Fragment.Neutral where
  word := by simp [Fragment.Neutral, marks]
  openParen := trivial
  closeParen := trivial
  condition c _ := c.neutral_fragment
  verbatim _ _ _ := trivial
  keys := ⟨rfl, trivial⟩
  groupKey column term separator items h :=
    ⟨h.1, (Fragment.allNeutral_iff _).2 (by
      simpa [Fragment.Neutral, or_imp, forall_and] using (Fragment.allNeutral_iff _).1 h.2)⟩
  sortKey column term order nulls separator items h :=
    ⟨h.1, (Fragment.allNeutral_iff _).2 (by
      simpa [Fragment.Neutral, or_imp, forall_and] using (Fragment.allNeutral_iff _).1 h.2)⟩

namespace SqlCommand

/-- Projections have no marks but those of the caller's texts, and keys refer to nothing else. -/
structure Consistent (b : SqlCommand) : Prop where
  neutral : ∀ f ∈ b.projections, f.Neutral
  terms : ∀ p ∈ b.terms, .projection p.1 p.2 ∈ b.projections

theorem consistent_pushKey {b : SqlCommand} (hb : b.Consistent) (place : Nat) (key : Fragment) :
    (pushKey place key b).2.Consistent := by
  unfold pushKey
  split
  · exact ⟨hb.neutral, hb.terms⟩
  · exact hb

theorem consistent_call {b : SqlCommand} (hb : b.Consistent) (c : Call) :
    (call c b).2.Consistent := by
  cases c with
  | condition k c =>
    show (b.restrict k c).2.Consistent
    obtain ⟨e, h⟩ | ⟨-, -, h⟩ := b.restrict_cases k c
    · rwa [h]
    · rw [h]
      exact ⟨hb.neutral, hb.terms⟩
  | verbatim k text args =>
    show (b.restrictVerbatim k text args).2.Consistent
    obtain ⟨e, h⟩ | ⟨-, -, h⟩ := b.restrictVerbatim_cases k text args
    · rwa [h]
    · rw [h]
      exact ⟨hb.neutral, hb.terms⟩
  | project column term =>
    refine ⟨?_, ?_⟩
    · simpa [call, Fragment.Neutral, or_imp, forall_and] using hb.neutral
    · intro p hp
      rcases List.mem_cons.1 hp with rfl | hp
      · simp [call]
      · exact List.mem_append_left _ (hb.terms p hp)
  | projectText text args =>
    refine ⟨?_, fun p hp => List.mem_append_left _ (hb.terms p hp)⟩
    simpa [call, Fragment.Neutral, or_imp, forall_and] using hb.neutral
  | projectAll | clearProjections | clear => exact ⟨by simp [call], by simp [call]⟩
  | groupBy column term =>
    show (b.groupBy column term).2.Consistent
    unfold groupBy
    split
    · exact hb
    · exact consistent_pushKey (by exact ⟨hb.neutral, hb.terms⟩) _ _
  | sortBy column term order nulls =>
    exact consistent_pushKey (by exact ⟨hb.neutral, hb.terms⟩) _ _
  | supply column value term =>
    simp only [call]
    split
    · exact hb
    · exact ⟨hb.neutral, hb.terms⟩
  | _ => exact ⟨hb.neutral, hb.terms⟩

theorem consistent_step {s t : Session SqlCommand} {m : Move} (h : s.Moved m t)
    (hs : s.command.Consistent) : t.command.Consistent := by
  cases h with
  | called c => exact consistent_call hs c
  | refused | unopened => exact hs
  | rendered | opened | undone | closed => exact ⟨hs.neutral, hs.terms⟩

theorem consistent_of_reachable {b : SqlCommand} (h : Reachable ({} : SqlCommand) b) :
    b.Consistent := by
  obtain ⟨moves, rfl⟩ := h
  exact Session.run_preserves (P := fun s : Session SqlCommand => s.command.Consistent)
    (fun s m => consistent_step (s.moved_step m)) moves _ ⟨by simp, by simp⟩

/-- The caller's texts in a command have the marks that they should have. -/
structure Templated (b : SqlCommand) : Prop where
  target : b.target.Unmarked
  projections : ∀ f ∈ b.projections, f.Templated
  filter : ∀ f ∈ b.filter, f.Templated
  assignments : ∀ a ∈ b.assignments, a.Templated
  row : ∀ a ∈ b.row, a.Templated

/-- What a rendered command binds: projections or assignments, and then the filter; or a row. -/
def operands (d : Dialect) (b : SqlCommand) : Request → List Statement
  | .select =>
    (if b.selectsAll then [] else b.projections.flatMap (Fragment.operands d)) ++
      b.filter.flatMap (Fragment.operands d)
  | .update _ =>
    b.assignments.flatMap Assignment.bindings ++ b.filter.flatMap (Fragment.operands d)
  | .delete _ => b.filter.flatMap (Fragment.operands d)
  | .insert _ _ => b.row.map Assignment.operand

section Woven
variable {b : SqlCommand} (hreach : Reachable ({} : SqlCommand) b) (hb : b.Templated)
  {d : Dialect} (hd : d.Unmarked)
include hreach hb hd

theorem unmarked_style (quote : Bool) :
    ({ dialect := d, quote, terms := b.terms } : Style).Unmarked where
  dialect := hd
  terms p hp := (hb.projections _ ((consistent_of_reachable hreach).terms p hp)).2

omit hd in
theorem woven_filterText {s : Style} (hs : s.Unmarked) (hdialect : s.dialect = d) :
    Woven (b.filter.flatMap (Fragment.operands d)) (b.filterText s) := by
  have hneutral := forall_mem_filter_of_reachable fillable_neutral hreach
  unfold filterText
  split
  · rename_i hempty
    simpa [List.isEmpty_iff.1 hempty] using Woven.plain (show marks "" = 0 from rfl)
  · have h := Fragment.woven_writeAll hs b.filter ((Fragment.allTemplated_iff _).2 hb.filter)
      ((Fragment.allNeutral_iff _).2 hneutral) " " rfl
    rw [Fragment.operandsOfAll_eq_flatMap, hdialect] at h
    exact h.plain_append (by split <;> rfl)

theorem woven_part (quote : Bool) {request : Request} (hrequest : request.Unmarked) :
    Woven (b.operands d request) (b.part request d quote) := by
  have htarget := hd.targetText quote hb.target
  have hstyle := unmarked_style hreach hb hd quote
  have hplain : ({ dialect := d, quote } : Style).Unmarked := ⟨hd, by simp⟩
  cases request with
  | select =>
    have hcolumns : Woven (if b.selectsAll then [] else b.projections.flatMap (Fragment.operands d))
        (if b.selectsAll then .plain "*"
          else (Fragment.commaSeparated b.projections).write
            { dialect := d, quote, terms := b.terms }) := by
      split
      · exact .plain rfl
      · have h := Fragment.woven_writeAll hstyle b.projections
          ((Fragment.allTemplated_iff _).2 hb.projections)
          ((Fragment.allNeutral_iff _).2 (consistent_of_reachable hreach).neutral) ", " rfl
        rwa [Fragment.operandsOfAll_eq_flatMap] at h
    have htext := (hcolumns.plain_append (show marks "SELECT " = 0 from rfl)).append_plain
      (show marks (" FROM " ++ d.targetText quote b.target) = 0 by
        simp only [marks_append, htarget]; rfl)
    exact htext.append (woven_filterText hreach hb hstyle rfl)
  | update allow =>
    have hassigned : Woven (b.assignments.flatMap Assignment.bindings)
        ((assignmentList b.assignments).write { dialect := d, quote }) := by
      have hlist : (assignmentList b.assignments).Templated :=
        (Fragment.allTemplated_iff _).2
          (List.forall_mem_map.2 fun a ha =>
            ⟨(hb.assignments a ha).column, (hb.assignments a ha).term⟩)
      have hneutral : (assignmentList b.assignments).Neutral :=
        ⟨rfl, (Fragment.allNeutral_iff _).2 (List.forall_mem_map.2 fun _ _ => trivial)⟩
      have h := Fragment.woven_write hplain _ hlist hneutral
      rwa [assignmentList, Fragment.commaSeparated, Fragment.operands,
        Fragment.operandsOfAll_eq_flatMap, List.flatMap_map] at h
    have htext := hassigned.plain_append
      (show marks ("UPDATE " ++ d.targetText quote b.target ++ " SET ") = 0 by
        simp only [marks_append, htarget]; rfl)
    exact htext.append (woven_filterText hreach hb hplain rfl)
  | delete allow =>
    exact (woven_filterText hreach hb hplain rfl).plain_append
      (by simp only [marks_append, htarget]; rfl)
  | insert primaryKey asked =>
    exact Dialect.woven_insertText hd quote htarget hrequest hb.row _

end Woven

end SqlCommand

/-! ### The same values in every dialect -/

namespace Fragment

mutual

/-- Styles differ in what they bind only by what their dialects make of patterns. -/
theorem args_write {s t : Style} (h : s.dialect.likePattern = t.dialect.likePattern) :
    ∀ f : Fragment, (f.write s).args = (f.write t).args
  | .word _ | .openParen | .closeParen | .column _ _ | .target _ | .bound _ _ | .verbatim _ _ => rfl
  | .pattern v wildcards term => by simp [write, Statement.bound, Dialect.patternValue, h]
  | .projection _ none | .projection _ (some _) | .groupKey _ _ | .sortKey _ _ _ _ => rfl
  | .assignment name v term => by
    rw [write, write]
    split <;> rfl
  | .joined separator items => args_writeAll h items

theorem args_writeAll {s t : Style} (h : s.dialect.likePattern = t.dialect.likePattern) :
    ∀ items : List Fragment,
      (writeAll s items).flatMap Statement.args = (writeAll t items).flatMap Statement.args
  | [] => rfl
  | f :: rest => by simp [writeAll, args_write h f, args_writeAll h rest]

end

end Fragment

namespace SqlCommand
variable {d d' : Dialect} (h : d.likePattern = d'.likePattern)
include h

theorem args_filterText (b : SqlCommand) {s t : Style} (hs : s.dialect = d) (ht : t.dialect = d') :
    (b.filterText s).args = (b.filterText t).args := by
  have hfilter :=
    Fragment.args_write (s := s) (t := t) (by rw [hs, ht, h]) (.blankSeparated b.filter)
  unfold filterText
  split
  · rfl
  · simp [hfilter]

/-- Dialects that leave patterns as they are bind the same values. -/
theorem args_part (request : Request) (quote : Bool) (b : SqlCommand) :
    (b.part request d quote).args = (b.part request d' quote).args := by
  have hwrite := fun (terms : List (String × Option String)) => Fragment.args_write
    (s := { dialect := d, quote, terms }) (t := { dialect := d', quote, terms }) h
  cases request with
  | select =>
    have hfilter := args_filterText h b (s := { dialect := d, quote, terms := b.terms })
      (t := { dialect := d', quote, terms := b.terms }) rfl rfl
    simp only [part, selectText, Statement.args_append, hfilter]
    split <;> simp [hwrite]
  | update allow =>
    have hfilter := args_filterText h b (s := { dialect := d, quote })
      (t := { dialect := d', quote }) rfl rfl
    simp [part, updateText, hfilter, hwrite []]
  | delete allow =>
    have hfilter := args_filterText h b (s := { dialect := d, quote })
      (t := { dialect := d', quote }) rfl rfl
    simp [part, deleteText, hfilter]
  | insert primaryKey asked => rfl

theorem args_render (request : Request) (quote : Bool) (b : SqlCommand) :
    (b.render request d quote).result.map Statement.args =
      (b.render request d' quote).result.map Statement.args := by
  have hpart : ∀ e : Dialect, (b.render request e quote).result.map Statement.args =
      (b.permit request).map fun _ => b.args ++ (b.part request e quote).args := by
    intro e
    rw [render_result]
    cases b.permit request <;> rfl
  rw [hpart, hpart, args_part h]

end SqlCommand

end DataCommand
