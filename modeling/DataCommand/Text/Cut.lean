/-!
Cutting a text to a number of bytes. The cut keeps whole characters: it is the longest beginning of
the text whose UTF-8 form fits.
-/

namespace DataCommand.Text

/-- The longest beginning of `cs` that takes at most `limit` bytes in UTF-8. -/
def cutChars : Nat → List Char → List Char
  | _, [] => []
  | limit, c :: cs =>
    if c.utf8Size ≤ limit then c :: cutChars (limit - c.utf8Size) cs else []

/-- A cut keeps a beginning. -/
theorem exists_eq_cutChars_append (limit : Nat) (cs : List Char) :
    ∃ rest, cs = cutChars limit cs ++ rest := by
  induction cs generalizing limit with
  | nil => exact ⟨[], rfl⟩
  | cons c cs ih =>
    rw [cutChars]
    split
    · obtain ⟨rest, hrest⟩ := ih (limit - c.utf8Size)
      exact ⟨rest, by rw [List.cons_append, ← hrest]⟩
    · exact ⟨c :: cs, rfl⟩

/-- What is kept fits. -/
theorem utf8ByteSize_cutChars_le (limit : Nat) (cs : List Char) :
    (String.ofList (cutChars limit cs)).utf8ByteSize ≤ limit := by
  induction cs generalizing limit with
  | nil => simp [cutChars]
  | cons c cs ih =>
    rw [cutChars]
    split
    · have hrest := ih (limit - c.utf8Size)
      rw [String.ofList_cons, String.utf8ByteSize_append, String.utf8ByteSize_singleton]
      omega
    · simp

/-- A beginning that fits takes no more bytes than the one that is kept. -/
theorem utf8ByteSize_take_le_cutChars (limit : Nat) (cs : List Char) (i : Nat)
    (h : (String.ofList (cs.take i)).utf8ByteSize ≤ limit) :
    (String.ofList (cs.take i)).utf8ByteSize ≤
      (String.ofList (cutChars limit cs)).utf8ByteSize := by
  induction cs generalizing limit i with
  | nil => simp [cutChars]
  | cons c cs ih =>
    cases i with
    | zero => simp
    | succ i =>
      rw [List.take_succ_cons, String.ofList_cons, String.utf8ByteSize_append,
        String.utf8ByteSize_singleton] at h ⊢
      have hrest := ih (limit - c.utf8Size) i (by omega)
      rw [cutChars, if_pos (by omega), String.ofList_cons, String.utf8ByteSize_append,
        String.utf8ByteSize_singleton]
      omega

/-- The longest beginning of `s` that takes at most `limit` bytes in UTF-8. -/
def cut (limit : Nat) (s : String) : String := String.ofList (cutChars limit s.toList)

end DataCommand.Text
