import DataCommand.Json.Basic
import DataCommand.Number.Numeral
import DataCommand.Number.Word

/-!
Numbers in JSON text. Without point and exponent a numeral that fits 64 bits, signed or unsigned, is
an integer. Any other one is a floating-point number: its leading digits form a significand below
`2 ^ 64`, the digits after that only move the point, and the significand is scaled by one table
power of ten, so that a result may differ from the nearest number in its last place.
-/

namespace DataCommand.Json
open Number

/-- Significands lie below this bound. -/
def significandLimit : Nat := 1 <<< 64

/-- Digits taken into a significand as long as it stays below the bound, and the digits left. -/
def takeDigits : Nat → List Char → Nat × List Char
  | n, [] => (n, [])
  | n, c :: cs =>
    let next := 10 * n + (c.toNat - 48)
    if next < significandLimit then takeDigits next cs else (n, c :: cs)

/-- The table entry for `10 ^ k`. -/
def powerOfTen (k : Nat) : Binary64 := Binary64.ofRatio false (.power 10 k)

/-- The greatest exponent in the table. -/
def tableTop : Nat := 308

/-- A number divided by a power of ten, in steps the table holds. Three steps leave nothing of a
significand below the bound. -/
def divideByTen : Nat → Binary64 → Nat → Binary64
  | 0, _, _ => Binary64.zero false
  | fuel + 1, x, k =>
    if k ≤ tableTop then x.divide (powerOfTen k)
    else divideByTen fuel (x.divide (powerOfTen tableTop)) (k - tableTop)

/-- The floating-point number for `significand * 10 ^ exponent`; none where it is too large. -/
def scale (significand : Nat) (exponent : Int) : Option Binary64 :=
  let x := Binary64.ofInt significand
  if significand = 0 then some x
  else if exponent < 0 then some (divideByTen 3 x exponent.natAbs)
  else if exponent.toNat ≤ tableTop then
    let y := x.multiply (powerOfTen exponent.toNat)
    if y.isInfinite then none else some y
  else none

/-- A numeral in JSON text, split at its point and its exponent. -/
structure NumberToken where
  negative : Bool
  whole : List Char
  places : Option (List Char)
  exponent : Option Int

/-- The value of a numeral. -/
def NumberToken.value (t : NumberToken) : Option Json :=
  let (n, dropped) := takeDigits 0 t.whole
  let signed := fun x : Binary64 => Json.float (if t.negative then x.negate else x)
  match t.places, t.exponent with
  | none, none =>
    if dropped ≠ [] then (scale n dropped.length).map signed
    else if !t.negative then some (.int n)
    else if n ≠ 0 ∧ fitsWord (-(n : Int)) then some (.int (-(n : Int)))
    else some (signed (Binary64.ofInt n))
  | places, exponent =>
    let (m, left) := takeDigits n (places.getD [])
    let taken := (places.getD []).length - left.length
    (scale m ((dropped.length : Int) - taken + exponent.getD 0)).map signed

/-- Reads a numeral off the front of a text: no superfluous zero in front, and a digit on both sides
of the point. -/
def readNumber (cs : List Char) : Option (Json × List Char) :=
  let (negative, cs) := match cs with
    | '-' :: r => (true, r)
    | r => (false, r)
  let whole := cs.takeWhile Char.isDigit
  let rest := cs.dropWhile Char.isDigit
  if whole.isEmpty ∨ (whole.take 1 = ['0'] ∧ 1 < whole.length) then none
  else
    let (places, rest) := match rest with
      | '.' :: r => (some (r.takeWhile Char.isDigit), r.dropWhile Char.isDigit)
      | r => (none, r)
    if places = some [] then none
    else match rest with
      | [] => (NumberToken.value ⟨negative, whole, places, none⟩).map (·, [])
      | c :: r =>
        if c = 'e' ∨ c = 'E' then
          let (minus, ds) := splitSign r
          let digits := ds.takeWhile Char.isDigit
          if digits.isEmpty then none
          else
            let e : Int := digitsValue digits
            (NumberToken.value ⟨negative, whole, places, some (if minus then -e else e)⟩).map
              (·, ds.dropWhile Char.isDigit)
        else (NumberToken.value ⟨negative, whole, places, none⟩).map (·, c :: r)

end DataCommand.Json
