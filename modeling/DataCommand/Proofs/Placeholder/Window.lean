import DataCommand.Proofs.Placeholder.Woven
import DataCommand.Proofs.Window

/-!
Windows and counts around a rendered query. Each of them may come several times, in any order; the
bounds of a window stand behind all that is bound before, in the order of their placeholders.
-/

namespace DataCommand

open Text

/-- What is put around a rendered query. -/
inductive Layer where
  | window (start limit : UInt64)
  | count

namespace Dialect

/-- The query with one layer around it. -/
def wrap (d : Dialect) (q : Statement) : Layer → Except CommandError Statement
  | .window start limit => d.windowed q start limit
  | .count => .ok (d.counted q)

/-- The query with several layers around it, the first one innermost. -/
def wrapAll (d : Dialect) (q : Statement) : List Layer → Except CommandError Statement
  | [] => .ok q
  | layer :: rest =>
    match d.wrap q layer with
    | .error e => .error e
    | .ok q => d.wrapAll q rest

/-- The bounds of a window, with the words that they stand in. -/
def bounds (form : WindowForm) (s l : Nat) : List Statement :=
  match form with
  | .offsetFetch =>
    (if s = 0 then [] else [.bound " OFFSET ? ROWS" (.int s)]) ++
      if l = 0 then [] else [.bound " FETCH NEXT ? ROWS ONLY" (.int l)]
  | .limitPair =>
    if s = 0 ∧ l = 0 then []
    else if s = 0 then [.bound " LIMIT ?" (.int l)]
    else if l = 0 then [.bound " LIMIT ?, 18446744073709551615" (.int s)]
    else [.bound " LIMIT ?" (.int s), .bound ", ?" (.int l)]
  | .limitOffset =>
    (if l = 0 then [] else [.bound " LIMIT ?" (.int l)]) ++
      if s = 0 then [] else [.bound " OFFSET ?" (.int s)]
  | .rowNumber =>
    if s = 0 ∧ l = 0 then []
    else if l = 0 then [.bound " ) WHERE ROW_ID > ?" (.int s)]
    else [.bound " WHERE ROWNUM <= ?" (.int (min (s + l) maxBound : Nat)),
      .bound " ) WHERE ROW_ID > ?" (.int s)]
  | .hint => []

/-- What a layer binds. -/
def layerOperands (d : Dialect) : Layer → List Statement
  | .window start limit => bounds d.windowForm start.toNat limit.toNat
  | .count => []

section Bound
variable {xs : List Statement} {text : String} {args : Arguments}

/-- One more bound behind the statement, in words without further marks. -/
theorem woven_bound (h : Woven xs ⟨text, args⟩) (words : String) (hwords : marks words = 1)
    (v : Value) : Woven (xs ++ [.bound words v]) ⟨text ++ words, args ++ [v]⟩ :=
  h.append (.bound hwords v)

/-- A window is woven from what the query is woven from, and from its bounds. -/
theorem woven_window (form : WindowForm) (start limit : UInt64) (h : Woven xs ⟨text, args⟩) :
    Woven (xs ++ bounds form start.toNat limit.toNat)
      ⟨(window form text start limit).1,
        args ++ (window form text start limit).2.map fun n => .int n⟩ := by
  cases form with
  | offsetFetch =>
    have hoffset := woven_bound h " OFFSET ? ROWS" rfl (.int start.toNat)
    by_cases hs : start.toNat = 0 <;> by_cases hl : limit.toNat = 0
    · simpa [bounds, window, hs, hl] using h
    · simpa [bounds, window, hs, hl] using woven_bound h " FETCH NEXT ? ROWS ONLY" rfl _
    · simpa [bounds, window, hs, hl] using hoffset
    · simpa [bounds, window, hs, hl] using
        woven_bound hoffset " FETCH NEXT ? ROWS ONLY" rfl (.int limit.toNat)
  | limitPair =>
    by_cases hs : start.toNat = 0 <;> by_cases hl : limit.toNat = 0
    · simpa [bounds, window, hs, hl] using h
    · simpa [bounds, window, hs, hl] using woven_bound h " LIMIT ?" rfl _
    · simpa [bounds, window, hs, hl] using
        woven_bound h " LIMIT ?, 18446744073709551615" rfl _
    · have hfirst := woven_bound h " LIMIT ?" rfl (.int start.toNat)
      simpa [bounds, window, hs, hl, String.append_assoc] using
        woven_bound hfirst ", ?" rfl (.int limit.toNat)
  | limitOffset =>
    have hlimit := woven_bound h " LIMIT ?" rfl (.int limit.toNat)
    by_cases hs : start.toNat = 0 <;> by_cases hl : limit.toNat = 0
    · simpa [bounds, window, hs, hl] using h
    · simpa [bounds, window, hs, hl] using hlimit
    · simpa [bounds, window, hs, hl] using woven_bound h " OFFSET ?" rfl _
    · simpa [bounds, window, hs, hl] using
        woven_bound hlimit " OFFSET ?" rfl (.int start.toNat)
  | rowNumber =>
    have hnumbered := (h.prepend
      (show marks "SELECT * FROM ( SELECT TMP.*, ROWNUM ROW_ID FROM ( " = 0 from rfl)).extend
        (show marks " ) TMP" = 0 from rfl)
    by_cases hl : limit.toNat = 0
    · by_cases hs : start.toNat = 0
      · simpa [bounds, window, hs, hl] using h
      · simpa [bounds, window, hs, hl] using
          woven_bound hnumbered " ) WHERE ROW_ID > ?" rfl _
    · have hlast := woven_bound hnumbered " WHERE ROWNUM <= ?" rfl
        (.int (min (start.toNat + limit.toNat) maxBound : Nat))
      simpa [bounds, window, hl, String.append_assoc] using
        woven_bound hlast " ) WHERE ROW_ID > ?" rfl (.int start.toNat)
  | hint =>
    by_cases hs : start.toNat = 0
    · simpa [bounds, window, hs] using h.prepend
        (show marks ("/*+overwrite_find_limit=" ++ toString limit.toNat ++ "*/") = 0 by
          simp only [marks_append, marks_toString_nat]; rfl)
    · simpa [bounds, window, hs] using h.prepend
        (show marks ("/*+overwrite_find_skip=" ++ toString start.toNat ++
            ",overwrite_find_limit=" ++ toString limit.toNat ++ "*/") = 0 by
          simp only [marks_append, marks_toString_nat]; rfl)

theorem woven_counted (d : Dialect) {q : Statement} (h : Woven xs q) : Woven xs (d.counted q) := by
  unfold counted
  split
  · exact h.plain_append rfl
  · exact (h.plain_append rfl).append_plain rfl

/-- Layers around a statement add what they bind, and leave values that were bound before in
front. -/
theorem woven_wrapAll (d : Dialect) (earlier : Arguments) :
    ∀ (layers : List Layer) {xs : List Statement} {q s : Statement}, Woven xs q →
      d.wrapAll (q.after earlier) layers = .ok s →
      ∃ part, s = part.after earlier ∧ Woven (xs ++ layers.flatMap d.layerOperands) part
  | [], xs, q, s, hq, h => by
    obtain rfl : q.after earlier = s := Except.ok.inj h
    exact ⟨q, rfl, by simpa using hq⟩
  | layer :: rest, xs, q, s, hq, h => by
    rw [wrapAll] at h
    cases hwrap : d.wrap (q.after earlier) layer with
    | error e => simp [hwrap] at h
    | ok wrapped =>
      rw [hwrap] at h
      have hlayer : ∃ part, wrapped = part.after earlier ∧
          Woven (xs ++ d.layerOperands layer) part := by
        cases layer with
        | window start limit =>
          exact ⟨_, by simpa [Statement.after] using windowed_eq_ok hwrap,
            woven_window d.windowForm start limit hq⟩
        | count =>
          obtain rfl : d.counted (q.after earlier) = wrapped := Except.ok.inj hwrap
          refine ⟨d.counted q, ?_, by simpa [layerOperands] using woven_counted d hq⟩
          unfold counted
          split <;> exact Statement.ext (by simp) (by simp)
      obtain ⟨part, rfl, hpart⟩ := hlayer
      obtain ⟨part, rfl, hpart⟩ := woven_wrapAll d earlier rest hpart h
      exact ⟨part, rfl, by simpa using hpart⟩

end Bound

end Dialect

end DataCommand
