/-!
Blank text. A text is blank when every character of it has the Unicode property `White_Space`; such
texts stand for "no name" and "no term" everywhere in a command. Trimming drops the white space at
both ends. `U+0085`, `U+00A0` and `U+3000` count, `U+200B`, `U+FEFF` and `U+001F` do not.
-/

namespace DataCommand.Text

/-- The `White_Space` property. -/
def isSpace (c : Char) : Bool :=
  let n := c.toNat
  (9 ≤ n && n ≤ 13) || n == 0x20 || n == 0x85 || n == 0xA0 || n == 0x1680 ||
    (0x2000 ≤ n && n ≤ 0x200A) || n == 0x2028 || n == 0x2029 || n == 0x202F || n == 0x205F ||
    n == 0x3000

/-- Nothing but white space, or nothing at all. -/
def isBlank (s : String) : Bool := s.toList.all isSpace

/-- The characters without the white space at their end. -/
def dropTrailing : List Char → List Char
  | [] => []
  | c :: cs =>
    match dropTrailing cs with
    | [] => if isSpace c then [] else [c]
    | d :: ds => c :: d :: ds

/-- The text without the white space at its two ends. -/
def trim (s : String) : String := String.ofList (dropTrailing (s.toList.dropWhile isSpace))

/-- The text, if it is there and not blank. -/
def unlessBlank : Option String → Option String
  | some s => if isBlank s then none else some s
  | none => none

/-! ### Laws of trimming -/

theorem dropTrailing_eq_nil_iff (cs : List Char) :
    dropTrailing cs = [] ↔ cs.all isSpace = true := by
  induction cs with
  | nil => simp [dropTrailing]
  | cons c cs ih =>
    rw [dropTrailing]
    split
    · rename_i h
      by_cases hc : isSpace c = true <;> simp_all
    · rename_i d ds h
      rw [h] at ih
      simp only [List.all_cons, Bool.and_eq_true, reduceCtorEq, false_iff, not_and]
      exact fun _ hall => absurd (ih.2 hall) (by simp)

/-- A text is blank exactly when trimming leaves nothing of it. -/
theorem trim_eq_empty_iff (s : String) : trim s = "" ↔ isBlank s = true := by
  have key : ∀ cs : List Char, (cs.dropWhile isSpace).all isSpace = cs.all isSpace := by
    intro cs
    induction cs with
    | nil => rfl
    | cons c cs ih => by_cases hc : isSpace c = true <;> simp_all [List.dropWhile]
  rw [trim, isBlank, ← key, ← dropTrailing_eq_nil_iff, ← String.toList_inj, String.toList_ofList]
  simp

theorem isPrefix_dropTrailing : ∀ cs : List Char, dropTrailing cs <+: cs
  | [] => List.prefix_rfl
  | c :: cs => by
    have ih := isPrefix_dropTrailing cs
    rw [dropTrailing]
    split
    · split
      · exact List.nil_prefix
      · exact ⟨cs, rfl⟩
    · rename_i d ds h
      rw [h] at ih
      exact List.cons_prefix_cons.2 ⟨rfl, ih⟩

theorem getLast?_dropTrailing :
    ∀ cs : List Char, ∀ c ∈ (dropTrailing cs).getLast?, isSpace c = false
  | [] => by simp [dropTrailing]
  | c :: cs => by
    have ih := getLast?_dropTrailing cs
    rw [dropTrailing]
    split
    · split <;> simp_all
    · rename_i d ds h
      rw [h] at ih
      simpa [List.getLast?_cons_cons] using ih

theorem dropTrailing_concat {c : Char} (hc : isSpace c = false) :
    ∀ cs : List Char, dropTrailing (cs ++ [c]) = cs ++ [c]
  | [] => by simp [dropTrailing, hc]
  | d :: cs => by
    rw [List.cons_append, dropTrailing, dropTrailing_concat hc cs]
    cases cs <;> rfl

theorem mem_of_mem_trim {s : String} {c : Char} (h : c ∈ (trim s).toList) : c ∈ s.toList := by
  rw [trim, String.toList_ofList] at h
  exact (List.dropWhile_sublist _).subset ((isPrefix_dropTrailing _).subset h)

/-- There is no white space at the two ends of a text. -/
def Tight (s : String) : Prop :=
  (∀ c ∈ s.toList.head?, isSpace c = false) ∧ ∀ c ∈ s.toList.getLast?, isSpace c = false

theorem tight_trim (s : String) : Tight (trim s) := by
  have hfront : ∀ c ∈ (s.toList.dropWhile isSpace).head?, isSpace c = false := by
    intro c hc
    have := List.head?_dropWhile_not isSpace s.toList
    simp_all
  rw [Tight, trim, String.toList_ofList]
  refine ⟨fun c hc => hfront c ?_, getLast?_dropTrailing _⟩
  obtain ⟨rest, hrest⟩ := isPrefix_dropTrailing (s.toList.dropWhile isSpace)
  rw [← hrest, List.head?_append]
  simp_all

/-- Trimming leaves a text as it is if there is nothing to drop. -/
theorem trim_of_tight {s : String} (h : Tight s) : trim s = s := by
  have hfront : s.toList.dropWhile isSpace = s.toList := by
    cases hs : s.toList with
    | nil => rfl
    | cons c cs => simp [h.1 c (by simp [hs])]
  rw [trim, hfront]
  rcases List.eq_nil_or_concat s.toList with hs | ⟨cs, c, hs⟩
  · rw [hs, dropTrailing, ← hs, String.ofList_toList]
  · rw [List.concat_eq_append] at hs
    rw [hs, dropTrailing_concat (h.2 c (by simp [hs])), ← hs, String.ofList_toList]

theorem head?_trim {s : String} {c : Char} (h : s.toList.head? = some c)
    (hc : isSpace c = false) : (trim s).toList.head? = some c := by
  obtain ⟨cs, hcs⟩ := List.head?_eq_some_iff.1 h
  have hfront : (c :: cs).dropWhile isSpace = c :: cs := by simp [hc]
  rw [trim, String.toList_ofList, hcs, hfront, dropTrailing]
  cases dropTrailing cs <;> simp [hc]

/-- Of texts without white space at their ends only the empty one is blank. -/
theorem isBlank_iff_of_tight {s : String} (h : Tight s) : isBlank s = true ↔ s = "" := by
  rw [← trim_eq_empty_iff, trim_of_tight h]

/-! ### Texts that are not blank -/

theorem unlessBlank_some (s : String) :
    unlessBlank (some s) = if isBlank s then none else some s := rfl

theorem unlessBlank_eq_some_iff {text : Option String} {name : String} :
    unlessBlank text = some name ↔ text = some name ∧ isBlank name = false := by
  cases text with
  | none => simp [unlessBlank]
  | some s => cases hs : isBlank s <;> simp only [unlessBlank_some, hs] <;> grind

end DataCommand.Text
