import DataCommand.CommandError

/-!
The stages of a command under construction. Conditions come first, grouping keys after them, sort
keys last; a stage is never left for an earlier one.
-/

namespace DataCommand

inductive Stage where
  | filtering
  | grouping
  | ordering
  deriving DecidableEq, Repr, Inhabited

namespace Stage

/-- The place among the stages. -/
def rank : Stage → Nat
  | .filtering => 0
  | .grouping => 1
  | .ordering => 2

/-- Conditions are taken before any key. -/
def admitsCondition : Stage → Except CommandError Unit
  | .filtering => .ok ()
  | .grouping => .error (.outOfOrder "condition" "GROUP BY")
  | .ordering => .error (.outOfOrder "condition" "ORDER BY")

/-- Grouping keys are taken before any sort key. -/
def admitsGrouping : Stage → Except CommandError Unit
  | .ordering => .error (.outOfOrder "GROUP BY" "ORDER BY")
  | _ => .ok ()

theorem admitsCondition_eq_ok_iff (s : Stage) : s.admitsCondition = .ok () ↔ s = .filtering := by
  cases s <;> simp [admitsCondition]

theorem admitsGrouping_eq_ok_iff (s : Stage) : s.admitsGrouping = .ok () ↔ s.rank < 2 := by
  cases s <;> simp [admitsGrouping, rank]

end Stage

end DataCommand
