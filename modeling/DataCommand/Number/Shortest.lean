import DataCommand.Number.Binary64

/-!
The shortest decimal that reads back. A finite number other than zero owns an interval of reals that
round to it, ends included when its significand is even. Among the decimals inside, the ones of
fewest digits come first, and of these the nearest; only the two neighbours of the number on the
grid of that many digits can be it.
-/

namespace DataCommand.Number

/-- A decimal magnitude `digits * 10 ^ exponent`. -/
structure Decimals where
  digits : Nat
  exponent : Int
  deriving DecidableEq, Inhabited

/-- How many decimal digits a number has, none for zero. -/
def digitCount (n : Nat) : Nat := if n = 0 then 0 else (Nat.toDigits 10 n).length

/-- The exponent `k` with `10 ^ k ≤ x < 10 ^ (k + 1)`, for a positive `x`. -/
def floorLog10 (x : Ratio) : Int :=
  if x.den ≤ x.num then (digitCount (x.num / x.den) : Int) - 1
  else -(digitCount ((x.den - 1) / x.num) : Int)

/-- The digits without the zeros at their end; `fuel` bounds how many are dropped. -/
def Decimals.strip : Nat → Decimals → Decimals
  | 0, d => d
  | fuel + 1, d =>
    if d.digits ≠ 0 ∧ d.digits % 10 = 0 then strip fuel ⟨d.digits / 10, d.exponent + 1⟩ else d

/-- What becomes of a number half way between its two neighbours on the grid. -/
inductive Tie where
  | toEven
  | up

/-- The interval of a number in quarters of its unit: low end, the number, high end. -/
structure Interval where
  low : Nat
  value : Nat
  high : Nat
  closed : Bool

/-- The reals that round to a finite number other than zero. Below a power of two the neighbours lie
half as far apart. -/
def interval (x : Binary64) : Interval :=
  let m := x.significand
  ⟨4 * m - (if x.fraction = 0 ∧ 1 < x.biased then 1 else 2), 4 * m, 4 * m + 2, m % 2 == 0⟩

/-- The point `c` of a grid lies in the interval; `quarter` is the quarter unit in grid steps. -/
def Interval.holds (i : Interval) (quarter : Ratio) (c : Nat) : Bool :=
  let point := c * quarter.den
  if i.closed then i.low * quarter.num ≤ point && point ≤ i.high * quarter.num
  else i.low * quarter.num < point && point < i.high * quarter.num

/-- The point of a grid inside the interval, if there is one; the nearer of two. -/
def Interval.candidate (i : Interval) (tie : Tie) (quarter : Ratio) : Option Nat :=
  let value := i.value * quarter.num
  let down := value / quarter.den
  let below := value - down * quarter.den
  let above := (down + 1) * quarter.den - value
  match i.holds quarter down, i.holds quarter (down + 1) with
  | true, false => some down
  | false, true => some (down + 1)
  | false, false => none
  | true, true =>
    if below < above then some down
    else if above < below then some (down + 1)
    else match tie with
      | .up => some (down + 1)
      | .toEven => some (if down % 2 = 0 then down else down + 1)

/-- The first grid with a candidate, from `n` digits on, for a number with its leading digit at
`10 ^ top` and a quarter unit of `quarter`; `fuel` bounds the number of grids. -/
def search (i : Interval) (tie : Tie) (quarter : Ratio) (top : Int) : Nat → Nat → Decimals
  | 0, _ => ⟨0, 0⟩
  | fuel + 1, n =>
    let e := top - (n : Int) + 1
    match i.candidate tie (quarter / .power 10 e) with
    | some c => (⟨c, e⟩ : Decimals).strip 20
    | none => search i tie quarter top fuel (n + 1)

/-- The shortest decimal that rounds to the magnitude of a finite number; seventeen digits are
always enough. -/
def shortest (tie : Tie) (x : Binary64) : Decimals :=
  if x.significand = 0 then ⟨0, 0⟩
  else
    search (interval x) tie (.power 2 (x.exponent - 2)) (floorLog10 x.magnitude) 17 1

end DataCommand.Number
