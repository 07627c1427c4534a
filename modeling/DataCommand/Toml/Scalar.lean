import DataCommand.Number.Numeral
import DataCommand.Number.Word
import DataCommand.Text.Join
import DataCommand.Toml.Basic
import DataCommand.Value.Uuid

/-!
TOML scalars without quotes: booleans, integers of four radices, floating-point numbers, and dates
and times. Underscores may stand between digits. An integer fits a 64-bit word, signed or unsigned,
and a finite literal denotes a finite number; any other number is read, but is excessive.
-/

namespace DataCommand.Toml
open Number

/-- The digits without the underscores, each of which stands between two digits. -/
def dropUnderscores (isDigit : Char → Bool) : List Char → Option (List Char)
  | [] => some []
  | '_' :: _ => none
  | c :: '_' :: d :: rest =>
    if isDigit c && isDigit d then (dropUnderscores isDigit (d :: rest)).map (c :: ·) else none
  | c :: rest => if isDigit c then (dropUnderscores isDigit rest).map (c :: ·) else none

/-- The value of digits in a radix. -/
def radixValue (radix : Nat) (cs : List Char) : Nat :=
  cs.foldl (fun n c => radix * n + (hexDigit? c).getD 0) 0

/-- The value of the digits of a radix; at least one. -/
def radixDigits? (radix : Nat) (cs : List Char) : Option Nat :=
  let isDigit := fun c => match hexDigit? c with
    | some d => decide (d < radix)
    | none => false
  match dropUnderscores isDigit cs with
  | some [] => none
  | some ds => some (radixValue radix ds)
  | none => none

/-- An integer, as far as a 64-bit word holds it. -/
def integer (n : Int) : Item := if fitsWord n || fitsUnsignedWord n then .int n else .excessive

/-- A floating-point number, as far as it is finite. -/
def finite (x : Binary64) : Item := if x.isFinite then .float x else .excessive

/-- Decimal digits of a whole number: no superfluous zero in front. -/
def wholeDigits? (cs : List Char) : Option (List Char) :=
  match dropUnderscores Char.isDigit cs with
  | some [] => none
  | some ds => if 1 < ds.length ∧ ds.head? = some '0' then none else some ds
  | none => none

/-- Decimal digits; at least one. -/
def someDigits? (cs : List Char) : Option (List Char) :=
  match dropUnderscores Char.isDigit cs with
  | some [] => none
  | r => r

/-- The digits behind a point, if there is one, and what follows them. -/
def splitPlaces (cs : List Char) : Option (List Char) × List Char :=
  let inPlaces := fun c => c.isDigit || c = '_'
  match cs with
  | '.' :: rest => (some (rest.takeWhile inPlaces), rest.dropWhile inPlaces)
  | _ => (none, cs)

/-- A decimal number: an integer, or a floating-point number if it has places or an exponent. -/
def number? (cs : List Char) : Option Item :=
  let (negative, body) := splitSign cs
  let inWhole := fun c => c.isDigit || c = '_'
  let (places, rest) := splitPlaces (body.dropWhile inWhole)
  match wholeDigits? (body.takeWhile inWhole), places, rest with
  | none, _, _ => none
  | some whole, none, [] =>
    let n : Int := digitsValue whole
    some (integer (if negative then -n else n))
  | some whole, places, rest =>
    match (places.map someDigits?).getD (some []) with
    | none => none
    | some frac =>
      let exponent := match rest with
        | [] => some 0
        | c :: e =>
          if c = 'e' ∨ c = 'E' then
            let (minus, ds) := splitSign e
            (someDigits? ds).map fun ds =>
              if minus then -(digitsValue ds : Int) else (digitsValue ds : Int)
          else none
      exponent.map fun e =>
        let n : Numeral := ⟨negative, digitsValue (whole ++ frac), e - frac.length⟩
        finite (Binary64.ofRatio negative n.magnitude)

/-! ### Dates and times -/

/-- A number of exactly as many digits as asked for, at the front of a text. -/
def fixedNumber? (digits : Nat) (cs : List Char) : Option (Nat × List Char) :=
  let ds := cs.take digits
  if ds.length = digits ∧ ds.all Char.isDigit then some (digitsValue ds, cs.drop digits) else none

/-- A character at the front of a text, dropped. -/
def expect? (c : Char) : List Char → Option (List Char)
  | d :: rest => if c = d then some rest else none
  | [] => none

def isLeapYear (y : Nat) : Bool := y % 4 == 0 && (y % 100 != 0 || y % 400 == 0)

/-- How many days a month has. -/
def daysIn (year month : Nat) : Nat :=
  if month = 2 then if isLeapYear year then 29 else 28
  else if month = 4 ∨ month = 6 ∨ month = 9 ∨ month = 11 then 30
  else 31

/-- A calendar day at the front of a text, in its normal form. -/
def date? (cs : List Char) : Option (String × List Char) := do
  let (year, cs) ← fixedNumber? 4 cs
  let cs ← expect? '-' cs
  let (month, cs) ← fixedNumber? 2 cs
  let cs ← expect? '-' cs
  let (day, cs) ← fixedNumber? 2 cs
  if 1 ≤ month ∧ month ≤ 12 ∧ 1 ≤ day ∧ day ≤ daysIn year month then
    some (Text.padZeros 4 (toString year) ++ "-" ++ Text.padZeros 2 (toString month) ++ "-" ++
      Text.padZeros 2 (toString day), cs)
  else none

/-- Nine digits of a fraction of a second, without the zeros at their end. -/
def fractionDigits (ds : List Char) : List Char :=
  ((ds.take 9).reverse.dropWhile (· = '0')).reverse

/-- The digits of a fraction at the front of a text, if there is one; of its digits nine count. -/
def fraction? (cs : List Char) : Option (List Char × List Char) :=
  match cs with
  | '.' :: rest =>
    let ds := rest.takeWhile Char.isDigit
    if ds.isEmpty then none else some (fractionDigits ds, rest.dropWhile Char.isDigit)
  | _ => some ([], cs)

/-- A time of day at the front of a text, in its normal form. Seconds may be left out, together with
their fraction. -/
def time? (cs : List Char) : Option (String × List Char) := do
  let (hour, cs) ← fixedNumber? 2 cs
  let cs ← expect? ':' cs
  let (minute, cs) ← fixedNumber? 2 cs
  let (second, fraction, cs) ← match cs with
    | ':' :: rest => do
      let (second, rest) ← fixedNumber? 2 rest
      let (fraction, rest) ← fraction? rest
      some (second, fraction, rest)
    | _ => some (0, [], cs)
  let two := fun n : Nat => Text.padZeros 2 (toString n)
  if hour ≤ 23 ∧ minute ≤ 59 ∧ second ≤ 60 then
    some (two hour ++ ":" ++ two minute ++ ":" ++ two second ++
      (if fraction.isEmpty then "" else "." ++ String.ofList fraction), cs)
  else none

/-- An offset from UTC that ends a text, in its normal form; none at the end of the text. -/
def offset? (cs : List Char) : Option String :=
  match cs with
  | [] => some ""
  | ['Z'] => some "Z"
  | ['z'] => some "Z"
  | c :: rest =>
    if c = '+' ∨ c = '-' then do
      let (hours, rest) ← fixedNumber? 2 rest
      let rest ← expect? ':' rest
      let (minutes, rest) ← fixedNumber? 2 rest
      if rest.isEmpty ∧ hours ≤ 23 ∧ minutes ≤ 59 then
        let sign := if c = '-' ∧ 0 < hours + minutes then "-" else "+"
        some (sign ++ Text.padZeros 2 (toString hours) ++ ":" ++
          Text.padZeros 2 (toString minutes))
      else none
    else none

/-- A date, a time, or both with an optional offset. -/
def moment? (cs : List Char) : Option Item :=
  match date? cs with
  | some (day, []) => some (.moment day)
  | some (day, c :: rest) =>
    if c = 'T' ∨ c = 't' ∨ c = ' ' then do
      let (time, rest) ← time? rest
      let offset ← offset? rest
      some (.moment (day ++ "T" ++ time ++ offset))
    else none
  | none => match time? cs with
    | some (time, []) => some (.moment time)
    | _ => none

/-- What a scalar without quotes denotes. -/
def scalar? (cs : List Char) : Option Item :=
  match String.ofList cs with
  | "true" => some (.bool true)
  | "false" => some (.bool false)
  | "inf" | "+inf" => some (.float (Binary64.infinity false))
  | "-inf" => some (.float (Binary64.infinity true))
  | "nan" | "+nan" => some (.float (Binary64.nan false))
  | "-nan" => some (.float (Binary64.nan true))
  | _ =>
    match cs with
    | '0' :: 'x' :: ds => (radixDigits? 16 ds).map fun n => integer n
    | '0' :: 'o' :: ds => (radixDigits? 8 ds).map fun n => integer n
    | '0' :: 'b' :: ds => (radixDigits? 2 ds).map fun n => integer n
    | _ => (number? cs).or (moment? cs)

end DataCommand.Toml
