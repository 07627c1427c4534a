import DataCommand.Dialect.Basic
import DataCommand.Statement

/-!
Windows and counts of rendered queries. A window skips `start` rows and keeps `limit` of the rest,
or all of the rest if `limit` is zero. Its bounds become arguments behind those of the query, so
they have to fit a signed 64-bit integer.
-/

namespace DataCommand.Dialect

/-- A bound as an argument. -/
def boundValue (n : Nat) : Except CommandError Value :=
  if Number.fitsWord n then .ok (.int n) else .error (.invalid (.outOfRange n))

/-- The greatest bound of 64 bits. -/
def maxBound : Nat := 18446744073709551615

/-- A window around a query, as a text and the bounds that the text binds. No window ends beyond the
greatest bound. -/
def window (form : WindowForm) (query : String) (start limit : UInt64) : String × List Nat :=
  let s := start.toNat
  let l := limit.toNat
  match form with
  | .offsetFetch =>
    (query ++ (if s = 0 then "" else " OFFSET ? ROWS") ++
        (if l = 0 then "" else " FETCH NEXT ? ROWS ONLY"),
      (if s = 0 then [] else [s]) ++ if l = 0 then [] else [l])
  | .limitPair =>
    if s = 0 ∧ l = 0 then (query, [])
    else if s = 0 then (query ++ " LIMIT ?", [l])
    else if l = 0 then (query ++ " LIMIT ?, 18446744073709551615", [s])
    else (query ++ " LIMIT ?, ?", [s, l])
  | .limitOffset =>
    (query ++ (if l = 0 then "" else " LIMIT ?") ++ (if s = 0 then "" else " OFFSET ?"),
      (if l = 0 then [] else [l]) ++ if s = 0 then [] else [s])
  | .rowNumber =>
    let numbered := "SELECT * FROM ( SELECT TMP.*, ROWNUM ROW_ID FROM ( " ++ query ++ " ) TMP"
    if s = 0 ∧ l = 0 then (query, [])
    else if l = 0 then (numbered ++ " ) WHERE ROW_ID > ?", [s])
    else
      (numbered ++ " WHERE ROWNUM <= ? ) WHERE ROW_ID > ?", [min (s + l) maxBound, s])
  | .hint =>
    ((if s = 0 then "/*+overwrite_find_limit=" ++ toString l ++ "*/"
      else "/*+overwrite_find_skip=" ++ toString s ++ ",overwrite_find_limit=" ++ toString l ++
        "*/") ++ query, [])

/-- The query cut to a window of its rows; the first bound out of range is the error. -/
def windowed (d : Dialect) (q : Statement) (start limit : UInt64) :
    Except CommandError Statement :=
  let w := window d.windowForm q.text start limit
  (w.2.mapM boundValue).map fun bounds => ⟨w.1, q.args ++ bounds⟩

/-- The query turned into a count of its rows. -/
def counted (d : Dialect) (q : Statement) : Statement :=
  match d.windowForm with
  | .hint => .plain "/*+overwrite_find_as_count*/" ++ q
  | _ => .plain "SELECT COUNT(*) FROM (" ++ q ++ .plain ") TEMP_T"

end DataCommand.Dialect
