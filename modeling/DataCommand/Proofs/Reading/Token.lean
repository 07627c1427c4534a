import DataCommand.Document
import DataCommand.Json.Reader
import DataCommand.Text.Split
import Mathlib.Data.List.TakeWhile

/-!
Tokens of documents. A text is cut into tokens from the front, whatever it is the text of. A string
is one token whatever is in it and whatever stands behind it; a numeral and a bare key are one token
each unless what stands behind them goes on like a word.
-/

namespace DataCommand.Document

/-- The characters that are tokens by themselves; the question mark stands for a hole. -/
def punctuation : List Char := ['\x7b', '\x7d', '[', ']', ',', ':', '?']

inductive Token where
  | mark (c : Char)
  | quoted (text : String)
  | int (n : Int)
  /-- A name without quotes. -/
  | word (name : String)
  deriving DecidableEq, Repr

/-- Nothing at the front of the text goes on with a word or a numeral. -/
def Ends (cs : List Char) : Prop := ∀ c ∈ cs.head?, continuesBareKey c = false

theorem ends_nil : Ends [] := by simp [Ends]

theorem ends_cons {c : Char} {cs : List Char} (hc : continuesBareKey c = false) :
    Ends (c :: cs) := by
  simpa [Ends] using hc

namespace Token

/-- Reads the digits of a number; a superfluous zero in front is refused. -/
def readDigits (cs : List Char) : Option (Nat × List Char) :=
  let digits := cs.takeWhile Char.isDigit
  if digits.isEmpty ∨ (digits.head? = some '0' ∧ 1 < digits.length) then none
  else some (Nat.ofDigitChars 10 digits 0, cs.dropWhile Char.isDigit)

/-- Reads the token that begins with a character. -/
def readFrom (c : Char) (cs : List Char) : Option (Token × List Char) :=
  if c ∈ punctuation then some (.mark c, cs)
  else if c = '\x22' then (Json.readString [] cs).map fun r => (.quoted r.1, r.2)
  else if c = '-' then (readDigits cs).map fun r => (.int (-r.1), r.2)
  else if c.isDigit then (readDigits (c :: cs)).map fun r => (.int r.1, r.2)
  else if startsBareKey c then
    some (.word (String.ofList (c :: cs.takeWhile continuesBareKey)),
      cs.dropWhile continuesBareKey)
  else none

/-- The first token of a text and the text behind it. -/
def next? (cs : List Char) : Option (Token × List Char) :=
  match Json.skipGap cs with
  | [] => none
  | c :: rest => readFrom c rest

end Token

@[simp]
theorem Token.next?_space (cs : List Char) : Token.next? (' ' :: cs) = Token.next? cs := rfl

theorem Token.next?_mark {c : Char} (hc : c ∈ punctuation) (cs : List Char) :
    Token.next? (c :: cs) = some (.mark c, cs) := by
  have hall : punctuation.all (!Json.isGap ·) = true := by decide
  have hgap : Json.isGap c = false := by simpa using List.all_eq_true.1 hall c hc
  simp [Token.next?, Json.skipGap, hgap, Token.readFrom, hc]

/-! ### Every token takes characters away -/

theorem length_of_readString {read cs rest : List Char} {text : String}
    (h : Json.readString read cs = some (text, rest)) : rest.length < cs.length := by
  fun_induction Json.readString read cs with
  | case1 | case3 | case5 | case6 | case7 | case10 | case11 => cases h
  | case2 =>
    obtain ⟨-, rfl⟩ := Prod.mk.inj (Option.some.inj h)
    exact Nat.lt_succ_self _
  | case4 | case8 | case9 | case12 =>
    rename_i ih
    have hrest := ih h
    simp only [List.length_cons]
    omega

namespace Token
variable {cs rest : List Char} {t : Token}

theorem length_of_readDigits {n : Nat} (h : readDigits cs = some (n, rest)) :
    rest.length < cs.length := by
  unfold readDigits at h
  dsimp only at h
  split at h
  · cases h
  next hdigits =>
    obtain ⟨-, rfl⟩ := Prod.mk.inj (Option.some.inj h)
    have hsplit := congrArg List.length
      (List.takeWhile_append_dropWhile (p := Char.isDigit) (l := cs))
    have hpos : cs.takeWhile Char.isDigit ≠ [] := fun hnil => hdigits (.inl (by rw [hnil]; rfl))
    rw [List.length_append] at hsplit
    have := List.length_pos_iff.2 hpos
    omega

/-- What makes a token of what was read leaves the rest as it is. -/
theorem of_map_eq_some {α : Type} {f : α → Token} {r : Option (α × List Char)}
    (h : (r.map fun r => (f r.1, r.2)) = some (t, rest)) : ∃ a, r = some (a, rest) := by
  obtain ⟨⟨a, rest'⟩, hr, heq⟩ := Option.map_eq_some_iff.1 h
  obtain ⟨-, rfl⟩ := Prod.mk.inj heq
  exact ⟨a, hr⟩

theorem length_of_readFrom {c : Char} (h : readFrom c cs = some (t, rest)) :
    rest.length ≤ cs.length := by
  unfold readFrom at h
  split at h
  · obtain ⟨-, rfl⟩ := Prod.mk.inj (Option.some.inj h)
    exact Nat.le_refl _
  split at h
  · obtain ⟨text, hr⟩ := of_map_eq_some h
    exact Nat.le_of_lt (length_of_readString hr)
  split at h
  · obtain ⟨n, hr⟩ := of_map_eq_some (f := fun n : Nat => .int (-n)) h
    exact Nat.le_of_lt (length_of_readDigits hr)
  split at h
  · obtain ⟨n, hr⟩ := of_map_eq_some (f := fun n : Nat => .int n) h
    exact Nat.le_of_lt_succ (length_of_readDigits hr)
  split at h
  · obtain ⟨-, rfl⟩ := Prod.mk.inj (Option.some.inj h)
    exact List.length_dropWhile_le continuesBareKey cs
  · cases h

theorem length_of_next? (h : next? cs = some (t, rest)) : rest.length < cs.length := by
  have hgap := List.length_dropWhile_le Json.isGap cs
  unfold next? Json.skipGap at h
  split at h
  · cases h
  next c cs' hcs =>
    have hrest := length_of_readFrom h
    rw [hcs, List.length_cons] at hgap
    omega

end Token

/-! ### Strings -/

theorem hexDigit?_digitChar : ∀ d < 16, hexDigit? (Nat.digitChar d) = some d := by decide

/-- A control is read back from its number. -/
theorem readString_control {c : Char} (hc : c.toNat < 0x20) (read rest : List Char) :
    Json.readString read ('\\' :: 'u' :: '0' :: '0' :: Nat.digitChar (c.toNat / 16) ::
        Nat.digitChar (c.toNat % 16) :: rest) =
      Json.readString (c :: read) rest := by
  have hhex : Json.hex4? '0' '0' (Nat.digitChar (c.toNat / 16)) (Nat.digitChar (c.toNat % 16)) =
      some c.toNat := by
    have hzero : hexDigit? '0' = some 0 := rfl
    simp only [Json.hex4?, hzero, hexDigit?_digitChar _ (by omega : c.toNat / 16 < 16),
      hexDigit?_digitChar _ (by omega : c.toNat % 16 < 16), Option.some.injEq]
    omega
  rw [Json.readString, hhex]
  dsimp only
  rw [if_neg (by omega), if_neg (by omega), Char.ofNat_toNat]

/-- A character that needs no escape is read back as itself. -/
theorem readString_plain {c : Char} (hquote : c ≠ '\x22') (hbackslash : c ≠ '\\')
    (hc : ¬ c.toNat < 0x20) (read rest : List Char) :
    Json.readString read (c :: rest) = Json.readString (c :: read) rest := by
  rw [Json.readString.eq_def]
  split
  case h_5 heq =>
    obtain ⟨rfl, rfl⟩ := List.cons.inj heq
    rw [if_neg (by simp [hbackslash, hc])]
  all_goals simp_all

/-- A character inside a string is read back as itself, escaped or not. -/
theorem readString_jsonEscape (c : Char) (read rest : List Char) :
    Json.readString read (Text.jsonEscape c ++ rest) = Json.readString (c :: read) rest := by
  unfold Text.jsonEscape
  split
  · subst_vars; rfl
  split
  · subst_vars; rfl
  split
  · subst_vars; rfl
  split
  · subst_vars; rfl
  split
  · subst_vars; rfl
  split
  · subst_vars; rfl
  split
  · subst_vars; rfl
  split
  next hcontrol => exact readString_control hcontrol read rest
  next hquote hbackslash _ _ _ _ _ hcontrol =>
    exact readString_plain hquote hbackslash hcontrol read rest

theorem readString_append (cs read rest : List Char) :
    Json.readString read (cs.flatMap Text.jsonEscape ++ '\x22' :: rest) =
      some (String.ofList (read.reverse ++ cs), rest) := by
  induction cs generalizing read with
  | nil => rw [List.append_nil]; rfl
  | cons c cs ih =>
    rw [List.flatMap_cons, List.append_assoc, readString_jsonEscape, ih]
    simp

namespace Token

/-- A string is one token, whatever is in it and whatever stands behind it. -/
theorem next?_jsonQuoted (text : String) (rest : List Char) :
    next? ((Text.jsonQuoted text).toList ++ rest) = some (.quoted text, rest) := by
  have hread := readString_append text.toList [] rest
  rw [List.reverse_nil, List.nil_append, String.ofList_toList] at hread
  rw [Text.jsonQuoted, String.toList_ofList, List.cons_append, List.append_assoc]
  show (Json.readString [] _).map _ = _
  rw [List.singleton_append, hread]
  rfl

end Token

/-! ### Numerals and words -/

/-- The numeral of a number begins with a zero only if the number is zero. -/
theorem eq_zero_of_head?_toDigits (n : Nat) (h : (Nat.toDigits 10 n).head? = some '0') : n = 0 := by
  induction n using Nat.strongRecOn with
  | ind n ih =>
    by_cases hn : n < 10
    · rw [Nat.toDigits_of_lt_base hn] at h
      have hdigit : ∀ d < 10, Nat.digitChar d = '0' → d = 0 := by decide
      exact hdigit n hn (Option.some.inj h)
    · rw [Nat.toDigits_of_base_le (by decide) (by omega), List.head?_append,
        List.head?_eq_some_head Nat.toDigits_ne_nil, Option.some_or, ← List.head?_eq_some_head] at h
      have hquotient := ih (n / 10) (by omega) h
      omega

/-- A character of a kind without punctuation, quotes, signs and gaps begins no other token. -/
theorem not_punctuation_of {p : Char → Bool} {c : Char} (hc : p c = true)
    (hp : (punctuation ++ ['\x22', '-', ' ', '\n', '\t', '\r']).all (!p ·) = true) :
    Json.isGap c = false ∧ c ∉ punctuation ∧ c ≠ '\x22' ∧ c ≠ '-' := by
  have hne : c ∉ punctuation ++ ['\x22', '-', ' ', '\n', '\t', '\r'] := by
    intro hmem
    have hnot := List.all_eq_true.1 hp c hmem
    rw [hc] at hnot
    cases hnot
  simp_all [Json.isGap]

/-- Letters come behind the digits. -/
theorem isDigit_of_isAlpha {c : Char} (hc : c.isAlpha = true) : c.isDigit = false := by
  have hkinds : (decide ('A'.val ≤ c.val ∧ c.val ≤ 'Z'.val) ||
      (decide ('a'.val ≤ c.val) && decide (c.val ≤ 'z'.val))) = true := hc
  rw [Bool.or_eq_true, Bool.and_eq_true, decide_eq_true_eq, decide_eq_true_eq] at hkinds
  have hletter : 'A'.toNat ≤ c.toNat := by
    obtain ⟨hupper, -⟩ | ⟨hlower, -⟩ := hkinds
    · exact UInt32.le_iff_toNat_le.1 hupper
    · exact Nat.le_trans (by decide) (UInt32.le_iff_toNat_le.1 hlower)
  rw [Bool.eq_false_iff]
  intro hdigit
  have hbelow : c.toNat ≤ '9'.toNat := (Char.isDigit_iff_toNat.1 hdigit).2
  exact absurd (Nat.le_trans hletter hbelow) (by decide)

theorem isDigit_of_startsBareKey {c : Char} (hc : startsBareKey c = true) : c.isDigit = false := by
  have hkinds : c = '$' ∨ c = '_' ∨ c.isAlpha = true := by
    simpa [startsBareKey, or_assoc] using hc
  obtain rfl | rfl | halpha := hkinds
  · rfl
  · rfl
  · exact isDigit_of_isAlpha halpha

namespace Token

theorem next?_of_isDigit {c : Char} (hc : c.isDigit = true) (cs : List Char) :
    next? (c :: cs) = (readDigits (c :: cs)).map fun r => (.int r.1, r.2) := by
  obtain ⟨hgap, hmark, hquote, hsign⟩ := not_punctuation_of hc (by decide)
  simp [next?, Json.skipGap, readFrom, hgap, hmark, hquote, hsign, hc]

theorem next?_of_startsBareKey {c : Char} (hc : startsBareKey c = true) (cs : List Char) :
    next? (c :: cs) =
      some (.word (String.ofList (c :: cs.takeWhile continuesBareKey)),
        cs.dropWhile continuesBareKey) := by
  obtain ⟨hgap, hmark, hquote, hsign⟩ := not_punctuation_of hc (by decide)
  have hdigit := isDigit_of_startsBareKey hc
  simp [next?, Json.skipGap, readFrom, hgap, hmark, hquote, hsign, hdigit, hc]

variable {rest : List Char}

theorem readDigits_toDigits (n : Nat) (hrest : Ends rest) :
    readDigits (Nat.toDigits 10 n ++ rest) = some (n, rest) := by
  have hdigits : ∀ c ∈ Nat.toDigits 10 n, c.isDigit = true := fun c hc =>
    Nat.isDigit_of_mem_toDigits (by decide) (by decide) hc
  have hstop : ∀ c ∈ rest.head?, c.isDigit = false := by
    intro c hc
    have := hrest c hc
    simp_all [continuesBareKey, Char.isAlphanum]
  obtain ⟨htake, hdrop⟩ := Text.span_append hdigits hstop
  have hzero : ¬((Nat.toDigits 10 n).isEmpty ∨
      ((Nat.toDigits 10 n).head? = some '0' ∧ 1 < (Nat.toDigits 10 n).length)) := by
    rintro (hempty | ⟨hhead, hlong⟩)
    · exact Nat.toDigits_ne_nil (List.isEmpty_iff.1 hempty)
    · rw [eq_zero_of_head?_toDigits n hhead] at hlong
      exact absurd hlong (by decide)
  rw [readDigits, htake, hdrop, if_neg hzero, Nat.ofDigitChars_ten_toDigits]

/-- A number is one token unless what stands behind it goes on like a word. -/
theorem next?_toString (n : Int) (hrest : Ends rest) :
    next? ((toString n).toList ++ rest) = some (.int n, rest) := by
  cases n with
  | ofNat n =>
    have hlist : (toString (Int.ofNat n)).toList = Nat.toDigits 10 n := Nat.toList_repr
    have hread := readDigits_toDigits n hrest
    rw [hlist]
    cases hdigits : Nat.toDigits 10 n with
    | nil => exact absurd hdigits Nat.toDigits_ne_nil
    | cons c cs =>
      have hc : c.isDigit = true :=
        Nat.isDigit_of_mem_toDigits (b := 10) (n := n) (by decide) (by decide) (by simp [hdigits])
      rw [hdigits] at hread
      rw [List.cons_append, next?_of_isDigit hc, ← List.cons_append, hread]
      rfl
  | negSucc n =>
    have hlist : (toString (Int.negSucc n)).toList = '-' :: Nat.toDigits 10 (n + 1) := by
      show ("-" ++ Nat.repr (n + 1)).toList = _
      rw [String.toList_append, Nat.toList_repr]
      rfl
    rw [hlist, List.cons_append]
    show (readDigits (Nat.toDigits 10 (n + 1) ++ rest)).map _ = _
    rw [readDigits_toDigits (n + 1) hrest]
    rfl

/-- A bare key is one token unless what stands behind it goes on like a word. -/
theorem next?_of_isBare {name : String} (hbare : isBare name = true) (hrest : Ends rest) :
    next? (name.toList ++ rest) = some (.word name, rest) := by
  unfold isBare at hbare
  cases hname : name.toList with
  | nil => simp [hname] at hbare
  | cons c cs =>
    simp only [hname, Bool.and_eq_true, List.all_eq_true] at hbare
    obtain ⟨htake, hdrop⟩ := Text.span_append hbare.2 hrest
    rw [List.cons_append, next?_of_startsBareKey hbare.1, htake, hdrop, ← hname,
      String.ofList_toList]

/-- The token of a key in a shell. -/
def ofShellKey (key : String) : Token := if isBare key then .word key else .quoted key

theorem next?_shellKey (key : String) (hrest : Ends rest) :
    next? ((shellKey key).toList ++ rest) = some (ofShellKey key, rest) := by
  unfold shellKey ofShellKey
  split
  · next hbare => exact next?_of_isBare hbare hrest
  · exact next?_jsonQuoted key rest

end Token

end DataCommand.Document
