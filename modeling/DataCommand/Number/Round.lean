import DataCommand.Number.Ratio

/-!
Rounding a quotient to a binary floating-point format. The nearest representable magnitude is a
significand and a power of two; a quotient half way between two neighbours goes to the even one.
-/

namespace DataCommand.Number

/-- A binary format: bits of precision, and the least and greatest exponent of a unit in the last
place of a finite number. -/
structure BinaryFormat where
  precision : Nat
  minExponent : Int
  maxExponent : Int

def BinaryFormat.single : BinaryFormat := ⟨24, -149, 104⟩
def BinaryFormat.double : BinaryFormat := ⟨53, -1074, 971⟩

/-- A significand with the exponent of its unit. -/
structure Scaled where
  significand : Nat
  exponent : Int

/-- The magnitude. -/
def Scaled.magnitude (x : Scaled) : Ratio := .ofNat x.significand * .power 2 x.exponent

/-- The nearest magnitude of the format, as if the exponent had no upper limit. -/
def BinaryFormat.nearest (f : BinaryFormat) (x : Ratio) : Scaled :=
  if x.num = 0 then ⟨0, f.minExponent⟩
  else
    let e := max (x.floorLog2 - (f.precision - 1 : Nat)) f.minExponent
    ⟨(x / .power 2 e).roundEven, e⟩

/-- The magnitude is too large for the format. -/
def BinaryFormat.overflows (f : BinaryFormat) (x : Scaled) : Bool :=
  f.maxExponent < x.exponent ||
    (x.exponent == f.maxExponent && Nat.pow 2 f.precision ≤ x.significand)

end DataCommand.Number
