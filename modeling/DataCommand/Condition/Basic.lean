import DataCommand.CommandError
import DataCommand.Condition.Connective
import DataCommand.Text.Blank
import DataCommand.Value.Basic

/-!
Conditions: a column and a test on it. Either side of the operator may have an expression of its
own, which is written instead of the column name or the placeholder.
-/

namespace DataCommand

/-- Where the pattern of a LIKE has its wildcards. -/
inductive Wildcards where
  | both
  | left
  | right
  deriving DecidableEq, Repr, Inhabited

/-- What a condition asks of its column. -/
inductive Test where
  /-- A comparison with one operand, or with none. -/
  | compare (comparison : Comparison) (operand : Option Value) (term : Option String)
      (wildcards : Wildcards)
  /-- A range with both of its ends. -/
  | within (negated : Bool) (low high : Value) (lowTerm highTerm : Option String)
  /-- A list of values, all behind the same expression. -/
  | oneOf (negated : Bool) (values : List Value) (term : Option String)

/-- A condition on a column, or on an expression in its place. -/
structure Condition where
  column : String
  term : Option String := none
  test : Test

namespace Test

/-- A comparison with an operand. -/
def operand (comparison : Comparison) (v : Value) : Test := .compare comparison (some v) none .both

/-- A comparison without operand. -/
def alone (comparison : Comparison) : Test := .compare comparison none none .both

/-- The operator of a test. -/
def comparison : Test → Comparison
  | .compare comparison _ _ _ => comparison
  | .within negated _ _ _ _ => if negated then .notBetween else .between
  | .oneOf negated _ _ => if negated then .notInList else .inList

end Test

namespace Condition

/-- What is wrong with a condition: a list or a range where one operand is, an operand that is
missing, or a list without values. -/
def fault? (c : Condition) : Option InputFault :=
  match c.test with
  | .compare comparison operand _ _ =>
    if comparison.takesList || comparison.takesRange then some (.wrongShape comparison c.column)
    else if !comparison.testsNull && operand.isNone then some (.noOperand comparison c.column)
    else none
  | .within _ _ _ _ _ => none
  | .oneOf _ values _ =>
    if values.isEmpty then some (.emptyList c.test.comparison c.column) else none

/-- Whether a builder may take the condition. -/
def check (c : Condition) : Except CommandError Unit :=
  match c.fault? with
  | some fault => .error (.invalid fault)
  | none => .ok ()

end Condition

end DataCommand
