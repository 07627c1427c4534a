import DataCommand.Proofs.Filter.Frame
import DataCommand.Proofs.Mask.Run
import DataCommand.Proofs.Rendering

/-!
Relational commands behind a mask. Fragments are told apart by their form alone, so every call does
the same to masked fragments, and a masked fragment is written as the same text.
-/

namespace DataCommand

namespace Fragment

mutual

/-- The fragment with its values masked. -/
def masked : Fragment → Fragment
  | .bound _ term => .bound .null term
  | .pattern _ wildcards term => .pattern .null wildcards term
  | .verbatim text args => .verbatim text (nulls args)
  | .assignment name value term => .assignment name (value.masked term) term
  | .joined separator items => .joined separator (maskedAll items)
  | f => f

def maskedAll : List Fragment → List Fragment
  | [] => []
  | f :: rest => masked f :: maskedAll rest

end

theorem maskedAll_eq_map (items : List Fragment) : maskedAll items = items.map masked := by
  induction items with
  | nil => rfl
  | cons f rest ih => simp [maskedAll, ih]

mutual

/-- Values leave no trace in the text of a fragment. -/
theorem write_masked (s : Style) : ∀ f : Fragment, (f.masked.write s).masked = (f.write s).masked
  | .word _ | .openParen | .closeParen | .column _ _ | .target _ | .bound _ _ => rfl
  | .projection _ none | .projection _ (some _) | .groupKey _ _ | .sortKey _ _ _ _ => rfl
  | .pattern v wildcards term => rfl
  | .verbatim text args => by simp [masked, write, Statement.masked, nulls]
  | .assignment name value term => by
    cases term with
    | none =>
      simp only [masked, write, Value.isNull_masked]
      split <;> rfl
    | some t => simp [masked, write, Statement.masked, Statement.bound, nulls]
  | .joined separator items => by
    simp only [masked, write, Statement.masked_join, writeAll_masked s items]

theorem writeAll_masked (s : Style) : ∀ items : List Fragment,
    (writeAll s (maskedAll items)).map Statement.masked = (writeAll s items).map Statement.masked
  | [] => rfl
  | f :: rest => by simp [maskedAll, writeAll, write_masked s f, writeAll_masked s rest]

end

theorem endsOpen_masked (fs : List Fragment) : endsOpen (fs.map masked) = endsOpen fs := by
  unfold endsOpen
  rw [List.getLast?_map]
  cases fs.getLast? with
  | none => rfl
  | some f => cases f <;> rfl

theorem pushAt_masked {key : Fragment} (hkey : key.masked = key) :
    ∀ (place : Nat) (fs : List Fragment),
    pushAt key place (fs.map masked) = (pushAt key place fs).map (List.map masked)
  | _, [] => by simp [pushAt]
  | 0, f :: rest => by
    cases f with
    | joined separator items => simp [pushAt, masked, maskedAll_eq_map, hkey]
    | _ => rfl
  | n + 1, f :: rest => by
    simp [pushAt, pushAt_masked hkey n rest, Function.comp_def]

end Fragment

/-- A condition behind the mask has a masked fragment. -/
theorem Condition.fragment_masked (c : Condition) : c.masked.fragment = c.fragment.masked := by
  obtain ⟨column, term, test⟩ := c
  have hoperands : test.masked.operands = test.operands.map Fragment.masked := by
    cases test with
    | compare comparison operand valueTerm wildcards =>
      have hvalue : (operand.map fun _ => Value.null).getD .null = .null := by cases operand <;> rfl
      simp only [Test.masked, Test.operands, hvalue]
      split
      · rfl
      · split <;> rfl
    | within => rfl
    | oneOf negated values valueTerm =>
      simp [Test.masked, Test.operands, Fragment.masked, Fragment.maskedAll_eq_map, nulls,
        Function.comp_def]
  have hsymbol : test.masked.comparison = test.comparison := by cases test <;> rfl
  simp [masked, fragment, Fragment.blankSeparated, Fragment.masked, Fragment.maskedAll_eq_map,
    hoperands, hsymbol]

namespace SqlCommand

/-- The command with its values masked. A row of it binds all its values. -/
def masked (b : SqlCommand) : SqlCommand :=
  { b with
    projections := b.projections.map Fragment.masked
    filter := b.filter.map Fragment.masked
    assignments := b.assignments.map (Assignment.masked true)
    row := b.row.map (Assignment.masked false)
    args := nulls b.args }

theorem lead_masked (filter : List Fragment) (k : Connective) :
    lead (filter.map Fragment.masked) k = lead filter k ∧
      (lead filter k).map Fragment.masked = lead filter k := by
  constructor
  · simp [lead, Fragment.endsOpen_masked]
  · unfold lead
    split <;> split <;> simp [Fragment.masked]

theorem append_masked (k : Connective) (e : Fragment) (b : SqlCommand) :
    b.masked.append k e.masked = (b.append k e).masked := by
  obtain ⟨hlead, hmasked⟩ := lead_masked b.filter k
  simp [append, masked, hlead, hmasked]

theorem restrict_masked (k : Connective) (c : Condition) (b : SqlCommand) :
    b.masked.restrict k c.masked = ((b.restrict k c).1, (b.restrict k c).2.masked) := by
  have happend := append_masked k c.fragment b
  rw [← c.fragment_masked] at happend
  have hstage : b.masked.stage = b.stage := rfl
  unfold restrict
  rw [c.check_masked, hstage, happend]
  cases b.stage.admitsCondition with
  | error e => rfl
  | ok => cases c.check <;> rfl

theorem restrictVerbatim_masked (k : Connective) (text : String) (args : List Value)
    (b : SqlCommand) :
    b.masked.restrictVerbatim k text (nulls args) =
      ((b.restrictVerbatim k text args).1, (b.restrictVerbatim k text args).2.masked) := by
  have happend : b.masked.append k (.verbatim text (nulls args)) =
      (b.append k (.verbatim text args)).masked := append_masked k (.verbatim text args) b
  have hstage : b.masked.stage = b.stage := rfl
  unfold restrictVerbatim
  rw [hstage, happend]
  cases b.stage.admitsCondition with
  | error e => rfl
  | ok =>
    simp only
    split <;> rfl

theorem openGroup_masked (k : Connective) (b : SqlCommand) :
    b.masked.openGroup k =
      (b.openGroup k).map fun opening => (opening.1, opening.2.masked) := by
  obtain ⟨hlead, hmasked⟩ := lead_masked b.filter k
  have hstage : b.masked.stage = b.stage := rfl
  unfold openGroup
  rw [hstage]
  cases b.stage.admitsCondition with
  | error e => rfl
  | ok => simp [Except.map, masked, hlead, hmasked, Fragment.masked]

theorem closeGroup_masked (mark : GroupMark) (verdict : Except CommandError Unit)
    (b : SqlCommand) :
    b.masked.closeGroup mark verdict =
      ((b.closeGroup mark verdict).1, (b.closeGroup mark verdict).2.masked) := by
  have hstage : b.masked.stage = b.stage := rfl
  have hopen : Fragment.endsOpen b.masked.filter = Fragment.endsOpen b.filter :=
    Fragment.endsOpen_masked b.filter
  unfold closeGroup
  rw [hstage, hopen]
  cases verdict with
  | error e => simp [masked, List.map_take]
  | ok =>
    cases b.stage.admitsCondition with
    | error e => simp [masked, List.map_take]
    | ok =>
      simp only
      split <;> simp [masked, List.map_take, Fragment.masked]

theorem pushKey_masked (place : Nat) {key : Fragment} (hkey : key.masked = key) (b : SqlCommand) :
    pushKey place key b.masked = ((pushKey place key b).1, (pushKey place key b).2.masked) := by
  have hpush : Fragment.pushAt key place b.masked.filter =
      (Fragment.pushAt key place b.filter).map (List.map Fragment.masked) :=
    Fragment.pushAt_masked hkey place b.filter
  unfold pushKey
  rw [hpush]
  cases Fragment.pushAt key place b.filter <;> rfl

theorem withList_masked (keyword : String) (place : Option Nat) (filter : List Fragment) :
    withList keyword place (filter.map Fragment.masked) =
      ((withList keyword place filter).1.map Fragment.masked,
        (withList keyword place filter).2) := by
  cases place with
  | some i => rfl
  | none => simp [withList, Fragment.masked, Fragment.commaSeparated, Fragment.maskedAll]

theorem groupBy_masked (column : String) (term : Option String) (b : SqlCommand) :
    b.masked.groupBy column term =
      ((b.groupBy column term).1, (b.groupBy column term).2.masked) := by
  have hstage : b.masked.stage = b.stage := rfl
  have hlist : withList "GROUP BY" b.masked.groupPlace b.masked.filter = _ :=
    withList_masked "GROUP BY" b.groupPlace b.filter
  unfold groupBy
  rw [hstage]
  cases b.stage.admitsGrouping with
  | error e => rfl
  | ok =>
    simp only [hlist]
    exact pushKey_masked _ rfl { b with filter := _, groupPlace := _, stage := .grouping }

theorem sortBy_masked (column : String) (term : Option String) (order : SortOrder)
    (nulls : NullsPlace) (b : SqlCommand) :
    b.masked.sortBy column term order nulls =
      ((b.sortBy column term order nulls).1, (b.sortBy column term order nulls).2.masked) := by
  have hlist : withList "ORDER BY" b.masked.sortPlace b.masked.filter = _ :=
    withList_masked "ORDER BY" b.sortPlace b.filter
  unfold sortBy
  simp only [hlist]
  exact pushKey_masked _ rfl { b with filter := _, sortPlace := _, stage := .ordering }

/-- A call does the same behind the mask. -/
theorem call_masked (c : Call) (b : SqlCommand) :
    call (c.masked false) b.masked = ((call c b).1, (call c b).2.masked) := by
  cases c with
  | condition k c => exact restrict_masked k c b
  | verbatim k text args => exact restrictVerbatim_masked k text args b
  | project column term => simp [call, Call.masked, masked, Fragment.masked]
  | projectText text args => simp [call, Call.masked, masked, Fragment.masked]
  | groupBy column term => exact groupBy_masked column term b
  | sortBy column term order nulls => exact sortBy_masked column term order nulls b
  | assign column value term =>
    have h : Assignment.push column (value.masked (Text.unlessBlank term)) term
        b.masked.assignments = _ := Assignment.push_masked true column value term b.assignments
    simp only [call, Call.masked, h]
    rfl
  | supply column value term =>
    have h : Assignment.pushNew column .null term b.masked.row = _ :=
      Assignment.pushNew_masked false column value term b.row
    simp only [call, Call.masked, Bool.false_eq_true, if_false, h]
    cases Assignment.pushNew column value term b.row <;> rfl
  | _ => rfl

/-! ### Rendering -/

theorem filterText_masked (s : Style) (b : SqlCommand) :
    (b.masked.filterText s).masked = (b.filterText s).masked := by
  have hwrite := Fragment.write_masked s (.blankSeparated b.filter)
  have hfilter : b.masked.filter.isEmpty = b.filter.isEmpty := by simp [masked]
  have hhas : b.masked.hasConditions = b.hasConditions := rfl
  rw [Fragment.blankSeparated, Fragment.masked, Fragment.maskedAll_eq_map] at hwrite
  unfold filterText
  rw [hfilter, hhas]
  split
  · rfl
  · rw [Statement.masked_append, Statement.masked_append]
    exact congrArg _ hwrite

theorem assignmentList_masked (assignments : List Assignment) :
    assignmentList (assignments.map (Assignment.masked true)) =
      (assignmentList assignments).masked := by
  simp [assignmentList, Fragment.commaSeparated, Fragment.masked, Fragment.maskedAll_eq_map,
    Assignment.masked, Function.comp_def]

/-- Values leave no trace in the text of a command. -/
theorem part_masked (request : Request) (d : Dialect) (quote : Bool) (b : SqlCommand) :
    (b.masked.part request d quote).masked = (b.part request d quote).masked := by
  have hfilter := fun s => filterText_masked s b
  cases request with
  | select =>
    have hall : b.masked.selectsAll = b.selectsAll := by simp [selectsAll, masked]
    have hterms : b.masked.terms = b.terms := rfl
    have hcolumns : ((Fragment.commaSeparated b.masked.projections).write
        { dialect := d, quote, terms := b.terms }).masked =
          ((Fragment.commaSeparated b.projections).write
            { dialect := d, quote, terms := b.terms }).masked := by
      have h := Fragment.write_masked { dialect := d, quote, terms := b.terms }
        (.commaSeparated b.projections)
      rwa [Fragment.commaSeparated, Fragment.masked, Fragment.maskedAll_eq_map] at h
    simp only [part, selectText, Statement.masked_append, hfilter, hall, hterms]
    split
    · rfl
    · rw [hcolumns]
      rfl
  | update allow =>
    have hassigned : ((assignmentList b.masked.assignments).write { dialect := d, quote }).masked =
        ((assignmentList b.assignments).write { dialect := d, quote }).masked := by
      have h := Fragment.write_masked { dialect := d, quote } (assignmentList b.assignments)
      rwa [← assignmentList_masked] at h
    simp only [part, updateText, Statement.masked_append, hfilter, hassigned]
    rfl
  | delete allow =>
    simp only [part, deleteText, Statement.masked_append, hfilter]
    rfl
  | insert primaryKey asked =>
    simp [part, insertText, masked, Statement.masked, Assignment.masked, Function.comp_def, nulls]

theorem permit_masked (request : Request) (b : SqlCommand) :
    b.masked.permit request = b.permit request := by simp [permit, masked]

/-- A mask over relational commands. -/
def masking : Masking SqlCommand where
  rows := false
  hide := masked
  call := call_masked
  openGroup := openGroup_masked
  closeGroup := closeGroup_masked
  answer q b := by
    cases q with
    | args => simp [Query.answer, Builder.args, Reply.masked, masked, nulls]
    | projectsAny | selectsAll =>
      simp [Query.answer, Builder.projectsAny, Builder.selectsAll, selectsAll, masked]
    | _ => rfl
  result request d quote b := by
    show (b.masked.render request d quote).result.map _ = (b.render request d quote).result.map _
    have hpart := part_masked request d quote b
    rw [render_result, render_result, permit_masked]
    cases b.permit request with
    | error e => rfl
    | ok => simp [Except.map, hpart, show b.masked.args = nulls b.args from rfl]
  withArgs args b := { b with args }
  hide_withArgs _ _ := rfl
  after := after_render

end SqlCommand

end DataCommand
