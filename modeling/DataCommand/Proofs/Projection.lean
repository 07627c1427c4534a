import DataCommand.Proofs.Parts.Interleaving
import Mathlib.Data.List.Induction

/-!
Projections and the keys that refer to them. A relational command has its projections in a list, and
beside it the latest expression of every projected column, for grouping and sort keys to repeat. The
list and the expressions tell of the same columns after any moves, and a key is looked up only when
the command is rendered; so it is written as the last projection of its column says, whichever of
the two came first.
-/

namespace DataCommand

namespace Move

end Move

namespace SqlCommand

end SqlCommand

/-! ### Keys in a query -/

/-- A sort key around an expression, with its direction and the place of its nulls. -/
def Dialect.sortKeyText (d : Dialect) (expr : String) (order : SortOrder) (nulls : NullsPlace) :
    String :=
  let directed := expr ++ (order.keyword.map (" " ++ ·)).getD ""
  if d.ordersNulls then directed ++ (nulls.keyword.map (" " ++ ·)).getD ""
  else d.nullsKey expr nulls ++ directed

theorem Style.sortKey_eq (s : Style) (column : String) (term : Option String) (order : SortOrder)
    (nulls : NullsPlace) :
    s.sortKey column term order nulls =
      s.dialect.sortKeyText (s.key s.dialect.ordersByAlias column term) order nulls := rfl

/-- The key came first, and the column was projected twice behind it. -/
example :
    let moves : List Move := [.call (.groupBy "c" none), .call (.project "c" none),
      .call (.project "c" (some "upper(c)")), .call (.setTarget { table := "t" })]
    let b := (Session.run ⟨({} : SqlCommand), []⟩ moves).command
    (b.selectText .standard false).text = "SELECT c, upper(c) c FROM t GROUP BY upper(c)" := by
  decide +kernel

end DataCommand
