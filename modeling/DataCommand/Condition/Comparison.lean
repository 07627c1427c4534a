/-!
The operators of conditions. Those that test for null have no operand, those for lists and ranges
have several, all others have one.
-/

namespace DataCommand

inductive Comparison where
  | eq | ne | gt | ge | lt | le
  | like | notLike
  | isNull | isNotNull
  | inList | notInList
  | between | notBetween
  deriving DecidableEq, Repr

namespace Comparison

/-- The operator in SQL. -/
def symbol : Comparison → String
  | .eq => "="
  | .ne => "<>"
  | .gt => ">"
  | .ge => ">="
  | .lt => "<"
  | .le => "<="
  | .like => "LIKE"
  | .notLike => "NOT LIKE"
  | .isNull => "IS NULL"
  | .isNotNull => "IS NOT NULL"
  | .inList => "IN"
  | .notInList => "NOT IN"
  | .between => "BETWEEN"
  | .notBetween => "NOT BETWEEN"

def testsNull : Comparison → Bool
  | .isNull | .isNotNull => true
  | _ => false

def takesPattern : Comparison → Bool
  | .like | .notLike => true
  | _ => false

def takesList : Comparison → Bool
  | .inList | .notInList => true
  | _ => false

def takesRange : Comparison → Bool
  | .between | .notBetween => true
  | _ => false

end Comparison

end DataCommand
