import DataCommand.Text.Join

/-!
Dates of the proleptic Gregorian calendar and points in time. A timestamp counts seconds from the
start of 1970 and nanoseconds within the second; a thousand million nanoseconds or more mark the
leap second that follows it.
-/

namespace DataCommand

/-- A calendar day. -/
structure Date where
  year : Int
  month : Nat
  day : Nat
  deriving DecidableEq, Inhabited

/-- A point in time. -/
structure Timestamp where
  seconds : Int
  nanos : Nat
  deriving DecidableEq, Inhabited

namespace Date

/-- Years of four digits stand as they are, later and negative ones with a sign. -/
def yearText (y : Int) : String :=
  let digits := Text.padZeros 4 (toString y.natAbs)
  if y < 0 then "-" ++ digits else if 9999 < y then "+" ++ digits else digits

/-- The form `2024-02-29`. -/
def text (d : Date) : String :=
  yearText d.year ++ "-" ++ Text.padZeros 2 (toString d.month) ++ "-" ++
    Text.padZeros 2 (toString d.day)

/-- The day a number of days after the first of January 1970. Years are counted from March, so that
the leap day ends them; four hundred such years have 146097 days. -/
def ofDays (days : Int) : Date :=
  let z := days + 719468
  let era := z.fdiv 146097
  let dayOfEra := (z.fmod 146097).toNat
  let yearOfEra :=
    (dayOfEra - dayOfEra / 1460 + dayOfEra / 36524 - dayOfEra / 146096) / 365
  let dayOfYear := dayOfEra - (365 * yearOfEra + yearOfEra / 4 - yearOfEra / 100)
  let shifted := (5 * dayOfYear + 2) / 153
  let month := if shifted < 10 then shifted + 3 else shifted - 9
  let year := era * 400 + yearOfEra + if month ≤ 2 then 1 else 0
  ⟨year, month, dayOfYear - (153 * shifted + 2) / 5 + 1⟩

end Date

namespace Timestamp

/-- The fraction of a second with the fewest of 0, 3, 6 or 9 digits that are exact. -/
def fractionText (nanos : Nat) : String :=
  if nanos = 0 then ""
  else if nanos % 1000000 = 0 then "." ++ Text.padZeros 3 (toString (nanos / 1000000))
  else if nanos % 1000 = 0 then "." ++ Text.padZeros 6 (toString (nanos / 1000))
  else "." ++ Text.padZeros 9 (toString nanos)

/-- Date and time of day in UTC, without the mark of the time zone. -/
def dateTimeText (t : Timestamp) : String :=
  let ofDay := (t.seconds.fmod 86400).toNat
  let leap := 1000000000 ≤ t.nanos
  let two := fun n : Nat => Text.padZeros 2 (toString n)
  (Date.ofDays (t.seconds.fdiv 86400)).text ++ "T" ++ two (ofDay / 3600) ++ ":" ++
    two (ofDay / 60 % 60) ++ ":" ++ two (ofDay % 60 + if leap then 1 else 0) ++
    fractionText (if leap then t.nanos - 1000000000 else t.nanos)

/-- The form with a numeric offset, `2023-11-14T22:13:20+00:00`. -/
def offsetText (t : Timestamp) : String := t.dateTimeText ++ "+00:00"

/-- The form with the letter for UTC, `2023-11-14T22:13:20Z`. -/
def zuluText (t : Timestamp) : String := t.dateTimeText ++ "Z"

end Timestamp

end DataCommand
