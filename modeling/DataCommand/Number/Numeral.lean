import DataCommand.Number.Binary64

/-!
Decimal numerals as texts: a sign, digits with an optional point, an optional exponent. A numeral
denotes `digits * 10 ^ exponent` exactly, and reading a floating-point number rounds that once.
-/

namespace DataCommand.Number

/-- The value of a run of decimal digits. -/
def digitsValue (cs : List Char) : Nat :=
  cs.foldl (fun n c => 10 * n + (c.toNat - 48)) 0

/-- A signed decimal `± digits * 10 ^ exponent`. -/
structure Numeral where
  negative : Bool
  digits : Nat
  exponent : Int

/-- The sign in front of a text, and what follows it. -/
def splitSign : List Char → Bool × List Char
  | '-' :: cs => (true, cs)
  | '+' :: cs => (false, cs)
  | cs => (false, cs)

/-- An exponent: a sign and at least one digit, nothing else. -/
def exponent? (cs : List Char) : Option Int :=
  let (negative, ds) := splitSign cs
  if ds.isEmpty || !ds.all Char.isDigit then none
  else some (if negative then -(digitsValue ds : Int) else (digitsValue ds : Int))

/-- A numeral with at least one digit before or after its point. -/
def Numeral.ofText? (cs : List Char) : Option Numeral :=
  let (negative, cs) := splitSign cs
  let whole := cs.takeWhile Char.isDigit
  let rest := cs.dropWhile Char.isDigit
  let (places, rest) := match rest with
    | '.' :: r => (r.takeWhile Char.isDigit, r.dropWhile Char.isDigit)
    | r => ([], r)
  if whole.isEmpty && places.isEmpty then none
  else
    let digits := digitsValue (whole ++ places)
    match rest with
    | [] => some ⟨negative, digits, -(places.length : Int)⟩
    | c :: r =>
      if c = 'e' ∨ c = 'E' then
        (exponent? r).map fun e => ⟨negative, digits, e - (places.length : Int)⟩
      else none

/-- The magnitude. Powers of ten beyond the range of every format are cut short: such
a numeral is nearer to zero, or farther from it, than any finite number, with the cut or without.
-/
def Numeral.magnitude (n : Numeral) : Ratio :=
  let size : Int := (Nat.log2 n.digits : Int)
  .ofNat n.digits *
    .power 10 (if n.digits = 0 then 0 else max (-(size + 1200)) (min n.exponent 400))

/-- The names of the numbers that are not finite, in any case. -/
def special? (cs : List Char) : Option Binary64 :=
  let (negative, cs) := splitSign cs
  let name := String.ofList (cs.map Char.toLower)
  if name = "inf" ∨ name = "infinity" then some (Binary64.infinity negative)
  else if name = "nan" then some (Binary64.nan negative)
  else none

/-- The 64-bit number nearest to what a text denotes. -/
def binary64? (s : String) : Option Binary64 :=
  match special? s.toList with
  | some x => some x
  | none => (Numeral.ofText? s.toList).map fun n => Binary64.ofRatio n.negative n.magnitude

/-- The 32-bit number nearest to what a text denotes, widened. -/
def binary32? (s : String) : Option Binary64 :=
  match special? s.toList with
  | some x => some x
  | none => (Numeral.ofText? s.toList).map fun n => Binary64.ofSingleRatio n.negative n.magnitude

end DataCommand.Number
