import DataCommand.Number.Shortest
import DataCommand.Text.Join

/-!
Two written forms of a floating-point number, both with the shortest digits that read back. The
plain form never uses an exponent and drops a fraction of zero. The JSON form is positional for
magnitudes from `10 ^ -5` up to `10 ^ 16` and always shows a fraction there.
-/

namespace DataCommand.Binary64
open Number

/-- Digits with a point `places` digits from their end, if any digit follows it. -/
def placePoint (digits : String) (places : Nat) : String :=
  if places = 0 then digits
  else
    let cs := (Text.padZeros (places + 1) digits).toList
    String.ofList (cs.take (cs.length - places) ++ '.' :: cs.drop (cs.length - places))

/-- A decimal without exponent. -/
def positional (d : Decimals) : String :=
  if 0 ≤ d.exponent then
    if d.digits = 0 then "0" else toString d.digits ++ Text.replicate d.exponent.toNat '0'
  else placePoint (toString d.digits) (-d.exponent).toNat

/-- A decimal with one digit before the point and an exponent of explicit sign. -/
def scientific (d : Decimals) : String :=
  let digits := (toString d.digits).toList
  let e := d.exponent + (digits.length : Int) - 1
  let head := String.ofList (digits.take 1)
  let tail := if digits.length ≤ 1 then "" else "." ++ String.ofList (digits.drop 1)
  head ++ tail ++ "e" ++ (if e < 0 then "-" else "+") ++ toString e.natAbs

/-- The decimal exponent of a decimal written with one digit before the point. -/
def leadingExponent (d : Decimals) : Int := d.exponent + (toString d.digits).length - 1

def sign (x : Binary64) : String := if x.negative then "-" else ""

/-- The plain form: `100`, `-0`, `0.00001`, `NaN`, `inf`. -/
def plainText (x : Binary64) : String :=
  if x.isNaN then "NaN"
  else if x.isInfinite then x.sign ++ "inf"
  else x.sign ++ positional (shortest .up x)

/-- The JSON form of a finite number: `100.0`, `-0.0`, `0.00001`, `1e+16`, `1.5e-7`. -/
def jsonText (x : Binary64) : String :=
  let d := shortest .toEven x
  let e := leadingExponent d
  x.sign ++
    if d.digits = 0 then "0.0"
    else if -5 ≤ e ∧ e ≤ 15 then positional d ++ (if 0 ≤ d.exponent then ".0" else "")
    else scientific d

end DataCommand.Binary64
