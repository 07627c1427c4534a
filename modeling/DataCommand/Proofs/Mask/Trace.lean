import DataCommand.Dialect.Builtin
import DataCommand.Proofs.Mask.Content
import DataCommand.Proofs.Mask.Relational

/-!
Bound values leave no trace. Scripts that differ in nothing but the values of their calls get the
same errors and the same texts with as many values, and so does whatever is rendered afterwards:
no value can get into the text of a statement.
-/

namespace DataCommand

/-- Two runs that cannot be told apart: by their replies with the values masked, or by the error,
or the text and the number of values, of anything that is rendered at their ends. -/
structure Indistinct {σ : Type} [Builder σ] (r r' : Run σ (List Reply)) : Prop where
  reply : Reply.maskedAll r.reply = Reply.maskedAll r'.reply
  render : ∀ (request : Request) (d : Dialect) (quote : Bool),
    (Builder.render request d quote r.after).result.map (fun s => (s.text, s.args.length)) =
      (Builder.render request d quote r'.after).result.map fun s => (s.text, s.args.length)

/-- Runs that are the same behind a mask cannot be told apart. -/
theorem Masking.Same.indistinct {σ : Type} [Builder σ] {M : Masking σ} {r r' : Run σ (List Reply)}
    (h : M.Same Reply.maskedAll r r') : Indistinct r r' where
  reply := h.reply
  render request d quote := by
    obtain ⟨e, hr, hr'⟩ | ⟨s, s', hr, hr', hs⟩ :=
      Except.cases_of_map_eq (M.result_same h.after request d quote)
    · rw [hr, hr']
    · simp only [hr, hr', Except.map, (Statement.masked_eq_iff s s').1 hs]

/-- Scripts that differ in nothing but values cannot be told apart by what they are answered, in any
family, from any command on. Where nulls are written out, two values must agree in being null: in
assignments without an expression, and in rows of documents. -/
theorem values_leave_no_trace (goOn : Bool) (steps steps' : List Step) :
    (Step.AllAlike false steps steps' → ∀ b : SqlCommand,
      Indistinct (Step.runAll goOn steps b) (Step.runAll goOn steps' b)) ∧
    (Step.AllAlike true steps steps' → ∀ b : DocumentCommand,
      Indistinct (Step.runAll goOn steps b) (Step.runAll goOn steps' b)) ∧
    (Step.AllAlike true steps steps' → ∀ b : SearchCommand,
      Indistinct (Step.runAll goOn steps b) (Step.runAll goOn steps' b)) :=
  ⟨fun h _ => (SqlCommand.masking.runAll_same goOn h rfl).indistinct,
    fun h _ => (DocumentCommand.masking.runAll_same goOn h rfl).indistinct,
    fun h _ => (SearchCommand.masking.runAll_same goOn h rfl).indistinct⟩

/-- A script with values in all kinds of calls. -/
def valuedScript (v w : Value) : List Step := [
  .group {} [
    .call (.condition {} ⟨"a", none, .compare .like (some v) (some "lower(?)") .both⟩),
    .call (.verbatim { alternative := true } "b > ?" [w])] false (.ok ()),
  .call (.condition { negated := true } ⟨"c", none, .oneOf false [v, w] none⟩),
  .call (.assign "d" v none),
  .call (.supply "e" w (some "lower(?)")),
  .render (.update false) .postgres true,
  .ask .args]

theorem values_leave_no_trace_valuedScript :
    Step.AllAlike false (valuedScript (.text "x") (.int 1))
        (valuedScript (.text "x'; DROP TABLE t --") .null) ∧
      Indistinct
        (Step.runAll true (valuedScript (.text "x") (.int 1)) ({} : SqlCommand))
        (Step.runAll true (valuedScript (.text "x'; DROP TABLE t --") .null)
          ({} : SqlCommand)) := by
  have halike : Step.AllAlike false (valuedScript (.text "x") (.int 1))
      (valuedScript (.text "x'; DROP TABLE t --") .null) :=
    .cons (.group _ _ _ (.cons (.call (.condition _ _ _ (.compare _ _ _ rfl)))
        (.cons (.call (.verbatim _ _ rfl)) .nil)))
      (.cons (.call (.condition _ _ _ (.oneOf _ _ rfl)))
      (.cons (.call (.assign _ _ fun _ => rfl))
      (.cons (.call (.supply _ _ fun h => absurd h (by decide)))
      (.cons (.render _ _ _)
      (.cons (.ask _) .nil)))))
  exact ⟨halike, (values_leave_no_trace true _ _).1 halike {}⟩

end DataCommand
