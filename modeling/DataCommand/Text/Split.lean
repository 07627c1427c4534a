/-!
Splitting a text at a character. There is one piece more than the character occurs, and no piece
holds it.
-/

namespace DataCommand.Text

/-- The pieces of a text between the places of a character. -/
def splitAt (sep : Char) : List Char → List (List Char)
  | [] => [[]]
  | c :: cs =>
    if c = sep then [] :: splitAt sep cs
    else match splitAt sep cs with
      | [] => [[c]]
      | piece :: pieces => (c :: piece) :: pieces

/-- The pieces of a text as texts. -/
def pieces (sep : Char) (s : String) : List String := (splitAt sep s.toList).map String.ofList

/-! ### Laws of splitting -/

theorem splitAt_ne_nil (sep : Char) (cs : List Char) : splitAt sep cs ≠ [] := by
  cases cs with
  | nil => simp [splitAt]
  | cons c cs =>
    rw [splitAt]
    split
    · simp
    · split <;> simp

/-- No piece holds the character at which the text is split. -/
theorem not_mem_of_mem_splitAt (sep : Char) (cs : List Char) :
    ∀ piece ∈ splitAt sep cs, sep ∉ piece := by
  induction cs with
  | nil => simp [splitAt]
  | cons c cs ih =>
    rw [splitAt]
    split
    · simpa using ih
    · rename_i hc
      split <;> rename_i h
      · simp [Ne.symm hc]
      · rw [h] at ih
        intro piece hp
        rcases List.mem_cons.1 hp with rfl | hp
        · have := ih _ (List.mem_cons_self ..)
          simp [Ne.symm hc, this]
        · exact ih _ (List.mem_cons_of_mem _ hp)

theorem length_splitAt (sep : Char) (cs : List Char) :
    (splitAt sep cs).length = cs.count sep + 1 := by
  induction cs with
  | nil => simp [splitAt]
  | cons c cs ih =>
    rw [splitAt]
    by_cases hc : c = sep
    · simp [hc, ih]
    · rw [if_neg hc, List.count_cons_of_ne hc, ← ih]
      split <;> rename_i h
      · exact absurd h (splitAt_ne_nil sep cs)
      · simp [h]

theorem splitAt_of_not_mem {sep : Char} {cs : List Char} (h : sep ∉ cs) :
    splitAt sep cs = [cs] := by
  induction cs with
  | nil => rfl
  | cons c cs ih =>
    obtain ⟨hc, hcs⟩ : c ≠ sep ∧ sep ∉ cs := by simpa [eq_comm] using h
    rw [splitAt, if_neg hc, ih hcs]

/-- The first piece ends where the character occurs first. -/
theorem splitAt_append_cons {sep : Char} {front : List Char} (h : sep ∉ front) (rest : List Char) :
    splitAt sep (front ++ sep :: rest) = front :: splitAt sep rest := by
  induction front with
  | nil => simp [splitAt]
  | cons c front ih =>
    obtain ⟨hc, hfront⟩ : c ≠ sep ∧ sep ∉ front := by simpa [eq_comm] using h
    rw [List.cons_append, splitAt, if_neg hc, ih hfront]

/-- All characters of a kind are taken if none follows. -/
theorem span_append {p : Char → Bool} {word rest : List Char} (hword : ∀ c ∈ word, p c = true)
    (hrest : ∀ c ∈ rest.head?, p c = false) :
    (word ++ rest).takeWhile p = word ∧ (word ++ rest).dropWhile p = rest := by
  rw [List.takeWhile_append_of_pos hword, List.dropWhile_append_of_pos hword]
  cases rest with
  | nil => simp
  | cons c rest => simp_all

/-- Where a character occurs first is settled. -/
theorem eq_of_append_cons_eq {sep : Char} {front front' rest rest' : List Char}
    (hfront : sep ∉ front) (hfront' : sep ∉ front')
    (heq : front ++ sep :: rest = front' ++ sep :: rest') : front = front' ∧ rest = rest' := by
  have hsplit : ∀ {cs : List Char}, sep ∉ cs → ∀ more : List Char,
      (cs ++ sep :: more).takeWhile (· != sep) = cs ∧
        (cs ++ sep :: more).dropWhile (· != sep) = sep :: more := fun hcs more =>
    span_append (fun c hc => by simpa using fun heq : c = sep => hcs (heq ▸ hc)) (by simp)
  have h := hsplit hfront rest
  rw [heq, (hsplit hfront' rest').1, (hsplit hfront' rest').2] at h
  exact ⟨h.1.symm, (List.cons.inj h.2).2.symm⟩

end DataCommand.Text
