import DataCommand.Number.FloatText
import DataCommand.Number.Numeral

/-!
Fixed-point decimals: a coefficient of at most ninety-six bits and up to twenty-eight decimal
places, which are kept as written. Two decimals are equal when they denote the same number.
-/

namespace DataCommand

/-- The number `± coefficient / 10 ^ scale`; zero has no sign. -/
structure Decimal where
  negative : Bool
  coefficient : Nat
  scale : Nat
  deriving DecidableEq, Inhabited

namespace Decimal

/-- Coefficients lie below this bound. -/
def limit : Nat := 1 <<< 96

/-- The greatest number of decimal places. -/
def maxScale : Nat := 28

/-- The decimal with its sign dropped at zero. -/
def make (negative : Bool) (coefficient scale : Nat) : Decimal :=
  ⟨negative && coefficient != 0, coefficient, scale⟩

/-- The written form: all places, and a digit before the point. -/
def text (d : Decimal) : String :=
  (if d.negative then "-" else "") ++ Binary64.placePoint (toString d.coefficient) d.scale

/-- The signed coefficient at a common scale. -/
def scaled (d : Decimal) (places : Nat) : Int :=
  (if d.negative then -1 else 1) * (d.coefficient * Nat.pow 10 places : Nat)

/-- Numerical equality. -/
def equal (x y : Decimal) : Bool := x.scaled y.scale == y.scaled x.scale

/-- A coefficient rounded up by one unit; where that leaves the range, a place is given up. -/
def carry (coefficient scale : Nat) : Option (Nat × Nat) :=
  if coefficient + 1 < limit then some (coefficient + 1, scale)
  else if scale = 0 then none
  else some ((coefficient + 5) / 10, scale - 1)

/-- Reads decimal places on from a coefficient. A digit that no longer fits is rounded, a five up,
and the digits after it do not count. -/
def readPlaces : List Char → Nat → Nat → Option (Nat × Nat)
  | [], coefficient, scale => some (coefficient, scale)
  | c :: cs, coefficient, scale =>
    if !c.isDigit then none
    else
      let digit := c.toNat - 48
      let next := 10 * coefficient + digit
      if maxScale ≤ scale ∨ limit ≤ next then
        if 5 ≤ digit then carry coefficient scale else some (coefficient, scale)
      else readPlaces cs next (scale + 1)

/-- Reads a decimal: a sign, digits, and optionally a point and more digits. -/
def ofText? (s : String) : Option Decimal :=
  let (negative, cs) := Number.splitSign s.toList
  let whole := cs.takeWhile Char.isDigit
  let rest := cs.dropWhile Char.isDigit
  let places := rest.drop 1
  let value := Number.digitsValue whole
  if limit ≤ value ∨ (whole.isEmpty ∧ places.isEmpty) ∨ (rest ≠ [] ∧ rest.take 1 ≠ ['.']) then none
  else (readPlaces places value 0).map fun r => make negative r.1 r.2

end Decimal

end DataCommand
