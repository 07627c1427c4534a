import DataCommand.Proofs.Placeholder.Content
import DataCommand.Proofs.Placeholder.Relational
import DataCommand.Proofs.Placeholder.Window
import DataCommand.Backend.Basic

/-!
Placeholders and values of whole statements. Whatever was called before, whichever backend a command
is rendered for, and whatever windows and counts come around it, a rendered command consists of what
was bound earlier and of a part in which marks and values belong to the same operands, in order.
-/

namespace DataCommand

/-- Whatever comes of the answer within some layers, it is what was bound earlier with a part behind
it that has the marks and values of some operands and of the layers, in order. -/
def BindsInOrder (d : Dialect) (layers : List Layer) (earlier : Arguments)
    (operands : List Statement) (answer : Except CommandError Statement) : Prop :=
  ∀ rendered delivered : Statement, answer = .ok rendered →
    d.wrapAll rendered layers = .ok delivered →
    ∃ part : Statement, delivered = part.after earlier ∧
      part.InOrder (operands ++ layers.flatMap d.layerOperands)

theorem bindsInOrder_of_woven {d : Dialect} {layers : List Layer} {earlier : Arguments}
    {operands : List Statement} {answer : Except CommandError Statement}
    (h : ∀ rendered, answer = .ok rendered →
      ∃ part, rendered = part.after earlier ∧ Woven operands part) :
    BindsInOrder d layers earlier operands answer := by
  intro rendered delivered hrendered hdelivered
  obtain ⟨part, rfl, hpart⟩ := h rendered hrendered
  obtain ⟨part, rfl, hpart⟩ := Dialect.woven_wrapAll d earlier layers hpart hdelivered
  exact ⟨part, rfl, hpart.inOrder⟩

theorem SqlCommand.bindsInOrder {b : SqlCommand} (hreach : Reachable ({} : SqlCommand) b)
    (hb : b.Templated) {d : Dialect} (hd : d.Unmarked) (quote : Bool) {request : Request}
    (hrequest : request.Unmarked) (layers : List Layer) :
    BindsInOrder d layers b.args (b.operands d request) (b.render request d quote).result := by
  refine bindsInOrder_of_woven fun rendered hrendered => ?_
  rw [b.render_result] at hrendered
  obtain ⟨-, -, rfl⟩ := Except.eq_of_map_eq_ok hrendered
  exact ⟨_, rfl, b.woven_part hreach hb hd quote hrequest⟩

theorem DocumentCommand.bindsInOrder {b : DocumentCommand}
    (hreach : Reachable ({} : DocumentCommand) b)
    (hb : b.Templated) {d : Dialect} (hd : d.Unmarked) (quote : Bool) (request : Request)
    (layers : List Layer) :
    BindsInOrder d layers b.args (b.operands d request) (b.render request d quote).result := by
  refine bindsInOrder_of_woven fun rendered hrendered => ?_
  rw [b.render_result] at hrendered
  obtain ⟨-, -, rfl⟩ := Except.eq_of_map_eq_ok hrendered
  exact ⟨_, rfl, b.woven_part (accepted_of_reachable hreach) hb hd quote request⟩

theorem SearchCommand.bindsInOrder {layout : PathLayout} {b : SearchCommand}
    (hreach : Reachable ({ layout } : SearchCommand) b)
    (hb : b.content.Templated) (d : Dialect) (quote : Bool) (request : Request)
    (layers : List Layer) :
    BindsInOrder d layers b.content.args (b.content.operands d request)
      (b.render request d quote).result := by
  refine bindsInOrder_of_woven fun rendered hrendered => ?_
  obtain ⟨-, e, he, rfl⟩ := render_eq_ok_iff.1 hrendered
  refine ⟨_, rfl, ?_⟩
  have hbody := Document.woven Document.unmarked_inJson _ (templated_body d hb request)
  rw [operands_body d (accepted_of_reachable hreach) request] at hbody
  have hendpoint := hb.target.endpoint he
  exact hbody.plain_append (by simp only [Text.marks_append, hendpoint]; rfl)

/-- Marks and values are in order in whatever is rendered for a backend, of any family, after any
moves, within any layers. Relational backends make the same values of one command, whichever of
them it is rendered for. -/
theorem marks_match_values (backend : Backend) (quote : Bool) (request : Request)
    (hrequest : request.Unmarked) (layers : List Layer) :
    let d := backend.dialect
    (∀ b : SqlCommand, Reachable {} b → b.Templated →
      BindsInOrder d layers b.args (b.operands d request) (b.render request d quote).result) ∧
    (∀ b : DocumentCommand, Reachable {} b → b.Templated →
      BindsInOrder d layers b.args (b.operands d request) (b.render request d quote).result) ∧
    (∀ (layout : PathLayout) (b : SearchCommand), Reachable { layout } b → b.content.Templated →
      BindsInOrder d layers b.content.args (b.content.operands d request)
        (b.render request d quote).result) ∧
    ∀ (other : Backend) (b : SqlCommand), backend.family = .sql → other.family = .sql →
      (b.render request d quote).result.map Statement.args =
        (b.render request other.dialect quote).result.map Statement.args := by
  have hd := Dialect.unmarked_backend backend
  refine ⟨fun b hreach hb => b.bindsInOrder hreach hb hd quote hrequest layers,
    fun b hreach hb => b.bindsInOrder hreach hb hd quote request layers,
    fun layout b hreach hb => b.bindsInOrder hreach hb _ quote request layers,
    fun other b hbackend hother => SqlCommand.args_render ?_ request quote b⟩
  have hunchanged : ∀ x : Backend, x.family = .sql → x.dialect.likePattern = .unchanged := by
    intro x hx
    cases x <;> first | rfl | exact absurd hx (by decide)
  rw [hunchanged backend hbackend, hunchanged other hother]

/-- A query with a projected text, a pattern and a list, after an earlier rendering. -/
def boundMoves : List Move := [
  .call (.setTarget { table := "t" }),
  .call (.projectText "coalesce(a, ?)" [.int 1]),
  .call (.project "b" (some "upper(c)")),
  .call (.condition {} ⟨"b", none, .compare .like (some (.text "x")) (some "lower(?)") .both⟩),
  .render .select .standard false,
  .openGroup { alternative := true },
  .call (.condition { negated := true } ⟨"d", none, .oneOf false [.int 2, .int 3] none⟩),
  .closeGroup (.ok ()),
  .call (.sortBy "b" none .desc .last)]

/-- The command that these moves lead to. -/
def boundCommand : SqlCommand := (Session.run ⟨{}, []⟩ boundMoves).command

theorem marks_match_values_boundCommand :
    BindsInOrder Backend.oracle.dialect [.window 5 10, .count] boundCommand.args
      (boundCommand.operands Backend.oracle.dialect .select)
      (boundCommand.render .select Backend.oracle.dialect true).result := by
  have htarget : boundCommand.target = { table := "t" } := rfl
  have hprojections : boundCommand.projections =
      [.verbatim "coalesce(a, ?)" [.int 1], .projection "b" (some "upper(c)")] := rfl
  have hfilter : boundCommand.filter =
      [.joined " " [.column "b" none, .word "LIKE", .pattern (.text "x") .both (some "lower(?)")],
        .word "OR", .openParen, .word "NOT",
        .joined " " [.column "d" none, .word "IN", .openParen,
          .joined " , " [.bound (.int 2) none, .bound (.int 3) none], .closeParen],
        .closeParen, .word "ORDER BY", .joined ", " [.sortKey "b" none .desc .last]] := rfl
  have htemplated : boundCommand.Templated := {
    target := by
      rw [htarget]
      exact ⟨by simp [Text.Unmarked], by simp [Text.Unmarked], rfl⟩
    projections := by
      rw [hprojections]
      simp [Fragment.Templated, Text.Unmarked, Text.marks]
    filter := by
      rw [hfilter]
      simp [Fragment.Templated, Fragment.AllTemplated, Text.Unmarked, Text.IsTemplate, Text.marks]
    assignments := fun _ h => absurd h (by rintro ⟨⟩)
    row := fun _ h => absurd h (by rintro ⟨⟩) }
  exact (marks_match_values .oracle true .select trivial [.window 5 10, .count]).1 boundCommand
    ⟨boundMoves, rfl⟩ htemplated

end DataCommand
