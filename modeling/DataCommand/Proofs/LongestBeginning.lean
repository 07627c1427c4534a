import DataCommand.Text.Cut

/-!
What is left of a text that is cut to a number of bytes. It is the one beginning of the text that
ends at the last boundary of characters within the limit. Going back from the limit byte by byte
finds this boundary, wherever the limit falls.
-/

namespace DataCommand.Text

/-- `t` is a beginning of `s` that ends between two characters, and the longest one of at most
`limit` bytes. -/
structure LongestBeginning (limit : Nat) (s t : String) : Prop where
  beginning : ∃ rest, s = t ++ rest
  boundary : t.rawEndPos.IsValid s
  fits : t.utf8ByteSize ≤ limit
  longest : ∀ p : s.Pos, p.offset.byteIdx ≤ limit → p.offset.byteIdx ≤ t.utf8ByteSize

namespace LongestBeginning
variable {limit : Nat} {s t t' : String}

/-- What stands in front of the last boundary within the limit is the longest beginning. -/
theorem of_splits {rest : String} {p : s.Pos} (hsplits : p.Splits t rest)
    (hfits : p.offset.byteIdx ≤ limit) (hlast : ∀ q : s.Pos, q.offset.byteIdx ≤ limit → q ≤ p) :
    LongestBeginning limit s t := by
  have hend := hsplits.offset_eq_rawEndPos
  refine ⟨⟨rest, hsplits.eq_append⟩, hend ▸ p.isValid, ?_, fun q hq => ?_⟩
  · rwa [hend] at hfits
  · have hle := hlast q hq
    rwa [String.Pos.le_iff, hend] at hle

/-- There is no other. -/
theorem unique (h : LongestBeginning limit s t) (h' : LongestBeginning limit s t') : t = t' := by
  obtain ⟨rest, hrest⟩ := h.beginning
  obtain ⟨rest', hrest'⟩ := h'.beginning
  have hsize : t.utf8ByteSize = t'.utf8ByteSize :=
    Nat.le_antisymm (h'.longest (s.pos _ h.boundary) h.fits)
      (h.longest (s.pos _ h'.boundary) h'.fits)
  have hsplits : (s.pos _ h.boundary).Splits t rest := ⟨hrest, rfl⟩
  have hsplits' : (s.pos _ h.boundary).Splits t' rest' := ⟨hrest', String.Pos.Raw.ext hsize⟩
  exact hsplits.eq_left hsplits'

/-- A text that fits is its own longest beginning. -/
theorem of_le (h : s.utf8ByteSize ≤ limit) : LongestBeginning limit s s :=
  of_splits s.splits_endPos h fun q _ => q.le_endPos

end LongestBeginning

theorem longestBeginning_cut (limit : Nat) (s : String) :
    LongestBeginning limit s (cut limit s) := by
  obtain ⟨rest, hrest⟩ := exists_eq_cutChars_append limit s.toList
  have happend : s = cut limit s ++ String.ofList rest := by
    rw [cut, ← String.ofList_append, ← hrest, String.ofList_toList]
  constructor
  · exact ⟨_, happend⟩
  · exact String.Pos.Raw.isValid_iff_exists_append.2 ⟨_, _, happend, rfl⟩
  · exact utf8ByteSize_cutChars_le limit s.toList
  · intro p hp
    -- every boundary is the end of a list of the first characters
    obtain ⟨i, hi⟩ := String.Pos.Raw.isValid_iff_exists_take_toList.1 p.isValid
    rw [hi] at hp ⊢
    exact utf8ByteSize_take_le_cutChars limit s.toList i hp

/-! ### Going back from the limit -/

/-- The first boundary that is met on the way from a byte back to the start. -/
def lastBoundary (s : String) : Nat → s.Pos
  | 0 => s.startPos
  | n + 1 =>
    if h : (⟨n + 1⟩ : String.Pos.Raw).IsValid s then s.pos ⟨n + 1⟩ h else lastBoundary s n

/-- The text as it is if it fits, else what stands in front of the boundary. -/
def cutBackwards (limit : Nat) (s : String) : String :=
  if s.utf8ByteSize ≤ limit then s else (s.sliceTo (lastBoundary s limit)).copy

theorem lastBoundary_le (s : String) (n : Nat) : (lastBoundary s n).offset.byteIdx ≤ n := by
  induction n with
  | zero => exact Nat.le_refl 0
  | succ n ih =>
    rw [lastBoundary]
    split
    · exact Nat.le_refl _
    · omega

/-- No boundary is passed over. -/
theorem le_lastBoundary {s : String} (p : s.Pos) {n : Nat} (h : p.offset.byteIdx ≤ n) :
    p ≤ lastBoundary s n := by
  induction n with
  | zero => exact h
  | succ n ih =>
    by_cases hvalid : (⟨n + 1⟩ : String.Pos.Raw).IsValid s
    · rw [lastBoundary, dif_pos hvalid]
      exact h
    · rw [lastBoundary, dif_neg hvalid]
      have hne : p.offset.byteIdx ≠ n + 1 := by
        intro heq
        have hoffset : p.offset = ⟨n + 1⟩ := String.Pos.Raw.ext heq
        exact hvalid (hoffset ▸ p.isValid)
      exact ih (by omega)

theorem longestBeginning_cutBackwards (limit : Nat) (s : String) :
    LongestBeginning limit s (cutBackwards limit s) := by
  by_cases hfits : s.utf8ByteSize ≤ limit
  · rw [cutBackwards, if_pos hfits]
    exact .of_le hfits
  · rw [cutBackwards, if_neg hfits]
    exact .of_splits (lastBoundary s limit).splits (lastBoundary_le s limit) fun q hq =>
      le_lastBoundary q hq

/-- A text is cut to its only longest beginning within the limit, which is found by going back from
the limit, too. It is the whole text exactly if that fits, and empty exactly if the text is empty or
its first character is longer than the limit. -/
theorem cut_longest_beginning (limit : Nat) (s : String) :
    (∀ t, LongestBeginning limit s t ↔ t = cut limit s) ∧
      cutBackwards limit s = cut limit s ∧
      (cut limit s = s ↔ s.utf8ByteSize ≤ limit) ∧
      (cut limit s = "" ↔ s = "" ∨ ∃ c rest, s.toList = c :: rest ∧ limit < c.utf8Size) := by
  have hcut := longestBeginning_cut limit s
  refine ⟨fun t => ⟨fun ht => ht.unique hcut, fun ht => ht ▸ hcut⟩, ?_, ⟨fun heq => ?_, ?_⟩, ?_⟩
  · exact (longestBeginning_cutBackwards limit s).unique hcut
  · exact heq ▸ hcut.fits
  · exact fun hfits => hcut.unique (.of_le hfits)
  · rw [cut, ← String.toList_inj, ← String.toList_inj, String.toList_ofList, String.toList_empty]
    cases s.toList with
    | nil => simp [cutChars]
    | cons c cs => simp [cutChars]

/-- A limit within a character of four bytes leaves the character out. -/
example : cut 3 "a😀b" = "a" := by decide

end DataCommand.Text
