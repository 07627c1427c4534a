import DataCommand.Number.Round

/-!
64-bit floating-point numbers as their bit patterns: one sign bit, eleven exponent bits, fifty-two
fraction bits. A finite number is `significand * 2 ^ exponent` with its sign. Arithmetic is exact
arithmetic on quotients followed by one rounding.
-/

namespace DataCommand

/-- A 64-bit floating-point number. -/
structure Binary64 where
  bits : UInt64
  deriving DecidableEq, Inhabited

namespace Binary64
open Number

/-- The sign bit. -/
def signBit : Nat := 1 <<< 63

/-- The lowest bit of the exponent; as part of a significand, its leading bit. -/
def unitBit : Nat := 1 <<< 52

/-- The sign bit is set. -/
def negative (x : Binary64) : Bool := signBit ≤ x.bits.toNat

/-- The biased exponent. -/
def biased (x : Binary64) : Nat := x.bits.toNat / unitBit % 2048

/-- The stored part of the significand. -/
def fraction (x : Binary64) : Nat := x.bits.toNat % unitBit

def isNaN (x : Binary64) : Bool := x.biased == 2047 && x.fraction != 0

def isInfinite (x : Binary64) : Bool := x.biased == 2047 && x.fraction == 0

def isFinite (x : Binary64) : Bool := x.biased != 2047

/-- The significand of a finite number, with its leading bit. -/
def significand (x : Binary64) : Nat :=
  if x.biased = 0 then x.fraction else unitBit + x.fraction

/-- The exponent of the unit in the last place of a finite number. -/
def exponent (x : Binary64) : Int := (max x.biased 1 : Nat) - (1075 : Int)

/-- The magnitude of a finite number. -/
def magnitude (x : Binary64) : Ratio := (Scaled.mk x.significand x.exponent).magnitude

/-- The number with the given sign and pattern of its other bits. -/
def ofPattern (negative : Bool) (pattern : Nat) : Binary64 :=
  ⟨UInt64.ofNat (pattern + if negative then signBit else 0)⟩

def infinity (negative : Bool) : Binary64 := ofPattern negative (2047 * unitBit)

def nan (negative : Bool) : Binary64 := ofPattern negative (2047 * unitBit + unitBit / 2)

def zero (negative : Bool) : Binary64 := ofPattern negative 0

/-- The number nearest to a magnitude with a sign; infinite where that is too large. -/
def ofRatio (negative : Bool) (magnitude : Ratio) : Binary64 :=
  let x := BinaryFormat.double.nearest magnitude
  if BinaryFormat.double.overflows x then infinity negative
  else ofPattern negative ((x.exponent + 1074).toNat * unitBit + x.significand)

/-- The number nearest to an integer. -/
def ofInt (n : Int) : Binary64 := ofRatio (n < 0) (.ofNat n.natAbs)

/-- The number, of the same value, nearest to a magnitude with a sign among the 32-bit numbers. -/
def ofSingleRatio (negative : Bool) (magnitude : Ratio) : Binary64 :=
  let x := BinaryFormat.single.nearest magnitude
  if BinaryFormat.single.overflows x then infinity negative else ofRatio negative x.magnitude

/-- The product of two finite numbers, rounded once. -/
def multiply (x y : Binary64) : Binary64 :=
  ofRatio (x.negative != y.negative) (x.magnitude * y.magnitude)

/-- The quotient of two finite numbers, rounded once; the second one is not zero. -/
def divide (x y : Binary64) : Binary64 :=
  ofRatio (x.negative != y.negative) (x.magnitude / y.magnitude)

/-- The same magnitude with the other sign. -/
def negate (x : Binary64) : Binary64 :=
  ofPattern (!x.negative) (x.bits.toNat % signBit)

/-- Numerical equality: no NaN equals anything, and the two zeros are equal. -/
def equal (x y : Binary64) : Bool :=
  !x.isNaN && !y.isNaN &&
    (x == y || (x.biased == 0 && x.fraction == 0 && y.biased == 0 && y.fraction == 0))

end Binary64

end DataCommand
