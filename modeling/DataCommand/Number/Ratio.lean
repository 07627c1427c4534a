/-!
Magnitudes as quotients of natural numbers. They are not reduced, and arithmetic on them is exact;
denominators are never zero where a quotient stands for a number.
-/

namespace DataCommand.Number

/-- The magnitude `num / den`. -/
structure Ratio where
  num : Nat
  den : Nat
  deriving DecidableEq, Inhabited

namespace Ratio

instance : Mul Ratio := ⟨fun x y => ⟨x.num * y.num, x.den * y.den⟩⟩

instance : Div Ratio := ⟨fun x y => ⟨x.num * y.den, x.den * y.num⟩⟩

/-- The first magnitude is at most the second. -/
def atMost (x y : Ratio) : Bool := x.num * y.den ≤ y.num * x.den

/-- A natural number. -/
def ofNat (n : Nat) : Ratio := ⟨n, 1⟩

/-- The power of a base to an exponent of either sign. -/
def power (base : Nat) (e : Int) : Ratio :=
  if 0 ≤ e then ⟨Nat.pow base e.toNat, 1⟩ else ⟨1, Nat.pow base (-e).toNat⟩

/-- Rounded to the nearest integer, a half going to the even neighbour. -/
def roundEven (x : Ratio) : Nat :=
  let q := x.num / x.den
  let twice := 2 * (x.num % x.den)
  if x.den < twice || (twice == x.den && q % 2 == 1) then q + 1 else q

/-- The exponent `e` with `2 ^ e ≤ x < 2 ^ (e + 1)`, for a positive `x`. -/
def floorLog2 (x : Ratio) : Int :=
  let guess : Int := (Nat.log2 x.num : Int) - (Nat.log2 x.den : Int)
  if (power 2 guess).atMost x then guess else guess - 1

end Ratio

end DataCommand.Number
