import DataCommand.Backend.Basic
import DataCommand.Proofs.Window
import Mathlib.Data.List.Basic

/-!
The rows in a window. What is put around a query is read here as a server reads it, word by word,
with the bounds taken from the arguments from left to right. The dialects word a window differently,
and one of them numbers the rows instead of skipping them; they keep the same rows, and no bound
among the arguments is other than asked for.
-/

namespace DataCommand

/-! ### Clauses of a window -/

/-- What is still to be read of the text behind a query, and of the arguments for it. -/
structure Unread where
  words : List String
  args : Arguments

/-- The words of a text; a comma is a word of its own. -/
def wordsOf (text : List Char) : List String :=
  ((Text.splitAt ' ' text).filter (!·.isEmpty)).flatMap fun word =>
    if word.getLast? = some ',' then [String.ofList word.dropLast, ","] else [String.ofList word]

/-- The bound that a word stands for: a placeholder for the next argument, a numeral for itself. -/
def boundOf? (word : String) (args : Arguments) : Option (Nat × Arguments) :=
  if word = "?" then
    match args with
    | .int (.ofNat n) :: rest => some (n, rest)
    | _ => none
  else if word.toList.all Char.isDigit then some (Nat.ofDigitChars 10 word.toList 0, args)
  else none

/-- Reads words that have to be there. -/
def expect? (words : List String) (u : Unread) : Option Unread :=
  (words.isPrefixOf? u.words).map fun rest => { u with words := rest }

/-- Reads a bound between fixed words, unless the text goes on in another way. -/
def clause? (before after : List String) (u : Unread) : Option (Option Nat × Unread) :=
  match before.isPrefixOf? u.words with
  | none => some (none, u)
  | some [] => none
  | some (word :: rest) =>
    match boundOf? word u.args, after.isPrefixOf? rest with
    | some (n, args), some rest => some (some n, ⟨rest, args⟩)
    | _, _ => none

section Rows
variable {α : Type}

/-- The rows behind the first `skip` ones, cut to `keep` rows. -/
def rowsBehind (skip keep : Option Nat) (rows : List α) : List α :=
  match keep with
  | none => rows.drop (skip.getD 0)
  | some n => (rows.drop (skip.getD 0)).take n

/-- The rows with their numbers, counted from one. -/
def numbered (rows : List α) : List (α × Nat) := rows.zipIdx 1

/-- The rows whose numbers are at most `upTo`, and of these the ones with numbers above `above`. -/
def rowsNumbered (upTo above : Option Nat) (rows : List α) : List α :=
  let first := (numbered rows).filter fun r => upTo.all (r.2 ≤ ·)
  (first.filter fun r => above.all (· < r.2)).map Prod.fst

/-- Reads what stands behind a query, and applies it to the rows of the query. -/
def readWindow (form : WindowForm) (u : Unread) (rows : List α) : Option (List α × Unread) :=
  match form with
  | .offsetFetch => do
    let (skip, u) ← clause? ["OFFSET"] ["ROWS"] u
    let (keep, u) ← clause? ["FETCH", "NEXT"] ["ROWS", "ONLY"] u
    return (rowsBehind skip keep rows, u)
  | .limitPair => do
    let (first, u) ← clause? ["LIMIT"] [] u
    let (second, u) ← clause? [","] [] u
    -- of two bounds the first one is the offset
    return (if second.isSome then rowsBehind first second rows else rowsBehind none first rows, u)
  | .limitOffset => do
    let (keep, u) ← clause? ["LIMIT"] [] u
    let (skip, u) ← clause? ["OFFSET"] [] u
    return (rowsBehind skip keep rows, u)
  | .rowNumber => do
    let u ← expect? [")", "TMP"] u
    let (upTo, u) ← clause? ["WHERE", "ROWNUM", "<="] [] u
    let u ← expect? [")"] u
    let (above, u) ← clause? ["WHERE", "ROW_ID", ">"] [] u
    return (rowsNumbered upTo above rows, u)
  | .hint => none

/-- What stands in front of a query in a window. -/
def opening : WindowForm → String
  | .rowNumber => "SELECT * FROM ( SELECT TMP.*, ROWNUM ROW_ID FROM ( "
  | _ => ""

/-- The rows of a window around a query, from the rows of the query: everything behind the query is
read, and all the bounds are used. -/
def rowsOf? (form : WindowForm) (query paged : String) (bounds : Arguments) (rows : List α) :
    Option (List α) :=
  match (opening form ++ query).toList.isPrefixOf? paged.toList with
  | some rest =>
    match readWindow form ⟨wordsOf rest, bounds⟩ rows with
    | some (kept, ⟨[], []⟩) => some kept
    | _ => none
  | none => if paged = query ∧ bounds.isEmpty then some rows else none

end Rows

/-! ### Laws of reading -/

section Rows
variable {α : Type} (rows : List α)

/-- The numbers up to a bound are those of the first rows. -/
theorem filter_zipIdx_le (k : Nat) : ∀ (rows : List α) (n : Nat),
    (rows.zipIdx n).filter (fun r => r.2 ≤ k) = (rows.take (k + 1 - n)).zipIdx n
  | [], n => by simp
  | row :: rows, n => by
    have ih := filter_zipIdx_le k rows (n + 1)
    rw [List.zipIdx_cons, List.filter_cons, ih]
    by_cases h : n ≤ k
    · have hlength : k + 1 - n = (k + 1 - (n + 1)) + 1 := by omega
      simp [h, hlength]
    · have hnone : k + 1 - n = 0 := by omega
      have hrest : k - n = 0 := by omega
      simp [h, hnone, hrest]

/-- The numbers beyond a bound are those of the rows behind the first ones. -/
theorem filter_zipIdx_gt (k : Nat) : ∀ (rows : List α) (n : Nat),
    ((rows.zipIdx n).filter fun r => k < r.2).map Prod.fst = rows.drop (k + 1 - n)
  | [], n => by simp
  | row :: rows, n => by
    have ih := filter_zipIdx_gt k rows (n + 1)
    rw [List.zipIdx_cons, List.filter_cons]
    by_cases h : k < n
    · have hall : k + 1 - n = 0 := by omega
      have hrest : k + 1 - (n + 1) = 0 := by omega
      simp_all
    · have hlength : k + 1 - n = (k + 1 - (n + 1)) + 1 := by omega
      rw [if_neg (by simpa using h), ih, hlength, List.drop_succ_cons]

theorem rowsNumbered_none (above : Nat) :
    rowsNumbered none (some above) rows = rows.drop above := by
  simpa [rowsNumbered, numbered] using filter_zipIdx_gt above rows 1

/-- Numbering the rows and comparing the numbers is cutting and skipping. -/
theorem rowsNumbered_some (upTo above : Nat) :
    rowsNumbered (some upTo) (some above) rows = (rows.take upTo).drop above := by
  have hfirst := filter_zipIdx_le upTo rows 1
  have hrest := filter_zipIdx_gt above (rows.take upTo) 1
  simp_all [rowsNumbered, numbered]

variable {rows} {form : WindowForm} {query text : String} {bounds : Arguments} {kept : List α}

/-- A window is applied as what stands behind the query in it is read. -/
theorem rowsOf?_of_readWindow (suffix : String) (htext : text = opening form ++ query ++ suffix)
    (hread : readWindow form ⟨wordsOf suffix.toList, bounds⟩ rows = some (kept, ⟨[], []⟩)) :
    rowsOf? form query text bounds rows = some kept := by
  have hprefix : (opening form ++ query).toList.isPrefixOf? text.toList = some suffix.toList :=
    List.isPrefixOf?_eq_some_iff_append_eq.2 (by simp [htext])
  rw [rowsOf?, hprefix]
  simp only [hread]

/-- A query that is not numbered keeps its rows: it is too short to hold the query once more. -/
theorem rowsOf?_query : rowsOf? .rowNumber query query [] rows = some rows := by
  have hnone : (opening .rowNumber ++ query).toList.isPrefixOf? query.toList = none := by
    rw [Option.eq_none_iff_forall_ne_some]
    intro rest hrest
    have hlength := congrArg List.length (List.append_eq_of_isPrefixOf?_eq_some hrest)
    have hopening : (opening .rowNumber).toList.length = 51 := by decide
    rw [String.toList_append, List.length_append, List.length_append] at hlength
    omega
  rw [rowsOf?, hnone]
  simp

end Rows

/-! ### The rows that are kept -/

/-- The rows that a window is to keep: those behind the first `start`, cut to `limit` unless it is
zero. -/
def rowsKept {α : Type} (start limit : Nat) (rows : List α) : List α :=
  if limit = 0 then rows.drop start else (rows.drop start).take limit

section Kept
variable {α : Type} (rows : List α) (query : String) (start limit : UInt64)

/-- The window of a form, read back, keeps the right rows. -/
def KeepsRows (form : WindowForm) : Prop :=
  let cut := Dialect.window form query start limit
  rowsOf? form query cut.1 (cut.2.map fun n : Nat => .int n) rows =
    some (rowsKept start.toNat limit.toNat rows)

variable {rows} {query} {start limit}

theorem keepsRows_offsetFetch : KeepsRows rows query start limit .offsetFetch := by
  unfold KeepsRows rowsKept
  by_cases hs : start.toNat = 0 <;> by_cases hl : limit.toNat = 0
  · simpa [Dialect.window, hs, hl] using rowsOf?_of_readWindow "" (by simp [opening]) rfl
  · simpa [Dialect.window, hs, hl] using
      rowsOf?_of_readWindow " FETCH NEXT ? ROWS ONLY" (by simp [opening]) rfl
  · simpa [Dialect.window, hs, hl] using
      rowsOf?_of_readWindow " OFFSET ? ROWS" (by simp [opening]) rfl
  · simpa [Dialect.window, hs, hl] using
      rowsOf?_of_readWindow (" OFFSET ? ROWS" ++ " FETCH NEXT ? ROWS ONLY")
        (by simp [opening, String.append_assoc]) rfl

theorem keepsRows_limitOffset : KeepsRows rows query start limit .limitOffset := by
  unfold KeepsRows rowsKept
  by_cases hs : start.toNat = 0 <;> by_cases hl : limit.toNat = 0
  · simpa [Dialect.window, hs, hl] using rowsOf?_of_readWindow "" (by simp [opening]) rfl
  · simpa [Dialect.window, hs, hl] using rowsOf?_of_readWindow " LIMIT ?" (by simp [opening]) rfl
  · simpa [Dialect.window, hs, hl] using rowsOf?_of_readWindow " OFFSET ?" (by simp [opening]) rfl
  · simpa [Dialect.window, hs, hl] using
      rowsOf?_of_readWindow (" LIMIT ?" ++ " OFFSET ?") (by simp [opening, String.append_assoc]) rfl

/-- A number of rows that no query reaches stands for all of them. -/
theorem keepsRows_limitPair (hrows : rows.length ≤ Dialect.maxBound) :
    KeepsRows rows query start limit .limitPair := by
  unfold KeepsRows rowsKept
  by_cases hs : start.toNat = 0 <;> by_cases hl : limit.toNat = 0
  · simpa [Dialect.window, hs, hl] using rowsOf?_of_readWindow "" (by simp [opening]) rfl
  · simpa [Dialect.window, hs, hl] using rowsOf?_of_readWindow " LIMIT ?" (by simp [opening]) rfl
  · have hall : (rows.drop start.toNat).take Dialect.maxBound = rows.drop start.toNat :=
      List.take_of_length_le (by rw [List.length_drop]; omega)
    have hread : rowsOf? .limitPair query (query ++ " LIMIT ?, 18446744073709551615")
        [.int start.toNat] rows = some ((rows.drop start.toNat).take Dialect.maxBound) :=
      rowsOf?_of_readWindow " LIMIT ?, 18446744073709551615" (by simp [opening]) rfl
    rw [hall] at hread
    simpa [Dialect.window, hs, hl] using hread
  · simpa [Dialect.window, hs, hl] using rowsOf?_of_readWindow " LIMIT ?, ?" (by simp [opening]) rfl

/-- Numbering keeps the right rows as long as the last number is no greater than a bound can be. -/
theorem keepsRows_rowNumber (hlast : start.toNat + limit.toNat ≤ Dialect.maxBound) :
    KeepsRows rows query start limit .rowNumber := by
  have hend : min (start.toNat + limit.toNat) Dialect.maxBound = start.toNat + limit.toNat := by
    omega
  unfold KeepsRows rowsKept
  by_cases hl : limit.toNat = 0
  · by_cases hs : start.toNat = 0
    · simpa [Dialect.window, hs, hl] using rowsOf?_query
    · have hread : rowsOf? .rowNumber query
          (opening .rowNumber ++ query ++ " ) TMP ) WHERE ROW_ID > ?") [.int start.toNat] rows =
          some (rowsNumbered none (some start.toNat) rows) :=
        rowsOf?_of_readWindow _ rfl rfl
      rw [rowsNumbered_none] at hread
      simpa [Dialect.window, hs, hl, opening, String.append_assoc] using hread
  · have hread : rowsOf? .rowNumber query
        (opening .rowNumber ++ query ++ " ) TMP WHERE ROWNUM <= ? ) WHERE ROW_ID > ?")
        [.int (start.toNat + limit.toNat : Nat), .int start.toNat] rows =
        some (rowsNumbered (some (start.toNat + limit.toNat)) (some start.toNat) rows) :=
      rowsOf?_of_readWindow _ rfl rfl
    rw [rowsNumbered_some, List.drop_take] at hread
    simpa [Dialect.window, hend, hl, opening, String.append_assoc] using hread

end Kept

/-! ### Bounds that fit -/

namespace Dialect
variable {d : Dialect} {q : Statement} {text : String} {start limit : UInt64}

/-- A window can be cut exactly if all its bounds fit. -/
theorem isOk_windowed_iff :
    (d.windowed q start limit).isOk = true ↔
      ∀ n ∈ (window d.windowForm q.text start limit).2, n ≤ 9223372036854775807 := by
  have hfits : ∀ n : Nat, Number.fitsWord n = true ↔ n ≤ 9223372036854775807 := by
    intro n
    rw [Number.fitsWord, Bool.and_eq_true, decide_eq_true_eq, decide_eq_true_eq]
    omega
  simp only [windowed_eq]
  cases h : (window d.windowForm q.text start limit).2.find? fun n : Nat => !Number.fitsWord n with
  | none =>
    have hall := List.find?_eq_none.1 h
    exact ⟨fun _ => by simpa [hfits] using hall, fun _ => rfl⟩
  | some n =>
    have hn : ¬ n ≤ 9223372036854775807 := by simpa [← hfits] using List.find?_some h
    constructor
    · intro hok
      cases hok
    · intro hall
      exact absurd (hall n (List.mem_of_find?_eq_some h)) hn

/-- A window that skips binds the bounds that are not zero. -/
theorem forall_mem_window_skipping {form : WindowForm}
    (hform : form ∈ [WindowForm.offsetFetch, .limitPair, .limitOffset]) (P : Nat → Prop) :
    (∀ n ∈ (window form text start limit).2, P n) ↔
      (start.toNat ≠ 0 → P start.toNat) ∧ (limit.toNat ≠ 0 → P limit.toNat) := by
  by_cases hs : start.toNat = 0 <;> by_cases hl : limit.toNat = 0 <;>
    cases form <;> simp_all [window, and_comm]

/-- A window that numbers binds the number of its last row instead of the limit. -/
theorem forall_mem_window_numbering (P : Nat → Prop) :
    (∀ n ∈ (window .rowNumber text start limit).2, P n) ↔
      (¬(start.toNat = 0 ∧ limit.toNat = 0) → P start.toNat) ∧
        (limit.toNat ≠ 0 → P (min (start.toNat + limit.toNat) maxBound)) := by
  by_cases hs : start.toNat = 0 <;> by_cases hl : limit.toNat = 0 <;>
    simp_all [window, and_comm]

theorem isOk_skipping_iff
    (hform : d.windowForm ∈ [WindowForm.offsetFetch, .limitPair, .limitOffset]) :
    (d.windowed q start limit).isOk = true ↔
      start.toNat ≤ 9223372036854775807 ∧ limit.toNat ≤ 9223372036854775807 := by
  rw [isOk_windowed_iff, forall_mem_window_skipping hform]
  omega

theorem isOk_numbering_iff (hform : d.windowForm = .rowNumber) :
    (d.windowed q start limit).isOk = true ↔
      start.toNat ≤ 9223372036854775807 ∧
        (0 < limit.toNat → start.toNat + limit.toNat ≤ 9223372036854775807) := by
  rw [isOk_windowed_iff, hform, forall_mem_window_numbering, maxBound]
  omega

end Dialect

/-! ### The windows of the backends -/

section Backend
variable {backend : Backend} {q : Statement} {start limit : UInt64}

/-- The backend that numbers the rows also binds the number of the last one. -/
theorem isOk_windowed_sql_iff (hsql : backend.family = .sql) :
    (backend.dialect.windowed q start limit).isOk = true ↔
      start.toNat ≤ 9223372036854775807 ∧
        if backend = .oracle then
          0 < limit.toNat → start.toNat + limit.toNat ≤ 9223372036854775807
        else limit.toNat ≤ 9223372036854775807 := by
  cases backend with
  | standard | mysql | postgres => exact Dialect.isOk_skipping_iff (by decide)
  | oracle => exact Dialect.isOk_numbering_iff rfl
  | mongo | elastic6 | elastic7 => cases hsql

/-- The bounds of a window that can be cut are the numbers asked for and their sum. -/
theorem exact_bounds_of_isOk (hsql : backend.family = .sql)
    (hok : (backend.dialect.windowed q start limit).isOk = true) :
    ∀ n ∈ (Dialect.window backend.dialect.windowForm q.text start limit).2,
      n ≤ 9223372036854775807 ∧
        (n = start.toNat ∨ n = limit.toNat ∨ n = start.toNat + limit.toNat) := by
  have hfits := Dialect.isOk_windowed_iff.1 hok
  have hsum := (isOk_windowed_sql_iff hsql).1 hok
  refine fun n hn => ⟨hfits n hn, ?_⟩
  revert n
  cases backend with
  | standard | mysql | postgres =>
    exact (Dialect.forall_mem_window_skipping (by decide) _).2 (by simp)
  | oracle =>
    refine (Dialect.forall_mem_window_numbering _).2 ⟨by simp, fun hl => ?_⟩
    have hlast := hsum.2 (Nat.pos_of_ne_zero hl)
    rw [Dialect.maxBound]
    omega
  | mongo | elastic6 | elastic7 => cases hsql

theorem keepsRows_of_isOk (hsql : backend.family = .sql)
    (hok : (backend.dialect.windowed q start limit).isOk = true) {α : Type} {rows : List α}
    (hrows : rows.length ≤ Dialect.maxBound) :
    KeepsRows rows q.text start limit backend.dialect.windowForm := by
  have hsum := (isOk_windowed_sql_iff hsql).1 hok
  cases backend with
  | standard => exact keepsRows_offsetFetch
  | mysql => exact keepsRows_limitPair hrows
  | postgres => exact keepsRows_limitOffset
  | oracle =>
    have hlast : 0 < limit.toNat → start.toNat + limit.toNat ≤ 9223372036854775807 := hsum.2
    exact keepsRows_rowNumber (by rw [Dialect.maxBound]; omega)
  | mongo | elastic6 | elastic7 => cases hsql

end Backend

/-- Every backend that takes SQL cuts the same window: it refuses the bounds that do not fit, binds
the others as they are behind the arguments of the query, and keeps the rows behind the first
`start`, `limit` of them or all. -/
theorem windows_keep_the_same_rows (backend : Backend) (hsql : backend.family = .sql)
    (q : Statement) (start limit : UInt64) :
    ((backend.dialect.windowed q start limit).isOk = true ↔
      start.toNat ≤ 9223372036854775807 ∧
        if backend = .oracle then
          0 < limit.toNat → start.toNat + limit.toNat ≤ 9223372036854775807
        else limit.toNat ≤ 9223372036854775807) ∧
    ∀ paged, backend.dialect.windowed q start limit = .ok paged →
      ∃ bounds : List Nat, paged.args = q.args ++ bounds.map (fun n : Nat => .int n) ∧
        (∀ n ∈ bounds, n ≤ 9223372036854775807 ∧
          (n = start.toNat ∨ n = limit.toNat ∨ n = start.toNat + limit.toNat)) ∧
        ∀ {α : Type} (rows : List α), rows.length < 18446744073709551616 →
          rowsOf? backend.dialect.windowForm q.text paged.text
              (bounds.map fun n : Nat => .int n) rows =
            some (rowsKept start.toNat limit.toNat rows) := by
  refine ⟨isOk_windowed_sql_iff hsql, fun paged hpaged => ?_⟩
  have hok : (backend.dialect.windowed q start limit).isOk = true := by rw [hpaged]; rfl
  rw [Dialect.windowed_eq_ok hpaged]
  exact ⟨_, rfl, exact_bounds_of_isOk hsql hok, fun rows hrows =>
    keepsRows_of_isOk hsql hok (Nat.le_of_lt_succ hrows)⟩

/-- Numbering cuts the rows behind the first two to three. -/
theorem windows_keep_the_same_rows_numbered :
    let q : Statement := ⟨"SELECT id FROM t WHERE n > ?", [.int 4]⟩
    ∃ paged, Backend.oracle.dialect.windowed q 2 3 = .ok paged ∧
      ∃ bounds : List Nat, paged.args = q.args ++ bounds.map (fun n : Nat => .int n) ∧
        rowsOf? .rowNumber q.text paged.text (bounds.map fun n : Nat => .int n)
            ["a", "b", "c", "d", "e", "f"] =
          some ["c", "d", "e"] := by
  intro q
  have hlaw := windows_keep_the_same_rows .oracle rfl q 2 3
  have hok : (Backend.oracle.dialect.windowed q 2 3).isOk = true := hlaw.1.2 (by decide)
  obtain ⟨paged, hpaged⟩ : ∃ paged, Backend.oracle.dialect.windowed q 2 3 = .ok paged := by
    cases h : Backend.oracle.dialect.windowed q 2 3 with
    | ok paged => exact ⟨paged, rfl⟩
    | error e => rw [h] at hok; cases hok
  obtain ⟨bounds, hargs, -, hrows⟩ := hlaw.2 paged hpaged
  exact ⟨paged, hpaged, bounds, hargs, hrows _ (by decide)⟩

end DataCommand
