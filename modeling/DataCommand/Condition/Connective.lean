/-!
The connective in front of a condition: whether it opens an alternative, and whether what follows is
negated.
-/

namespace DataCommand

structure Connective where
  /-- OR stands in front, and not AND. -/
  alternative : Bool := false
  /-- NOT stands in front. -/
  negated : Bool := false
  deriving DecidableEq, Repr, Inhabited

def Connective.keyword (c : Connective) : String := if c.alternative then "OR" else "AND"

end DataCommand
