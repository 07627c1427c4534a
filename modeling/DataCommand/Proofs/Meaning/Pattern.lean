import DataCommand.Backend.Basic
import DataCommand.Fragment
import Mathlib.Data.List.Infix

/-!
The texts that a LIKE finds. A relational server concatenates the bound text with its wildcards and
compares whole texts with that; a search server does the same in another language of wildcards; a
document store looks for a regular expression anywhere in a text, so its pattern has an anchor on
the side where the others have no wildcard. A plain text is found alike everywhere.
-/

namespace DataCommand

/-- What a LIKE is to find: texts with `v` in them, at their end or at their beginning. -/
def Wildcards.Finds (w : Wildcards) (v s : List Char) : Prop :=
  match w with
  | .both => v <:+: s
  | .left => v <:+ s
  | .right => v <+: s

/-! ### Wildcards -/

/-- The signs of a language of wildcards. -/
structure WildcardSigns where
  /-- Any run of characters. -/
  run : Char
  /-- Any one character. -/
  one : Char
  /-- Takes the meaning away from the next character. -/
  escape : Option Char

/-- A part of a pattern with wildcards. -/
inductive WildcardPart where
  | run
  | one
  | char (c : Char)

def WildcardSigns.parts (signs : WildcardSigns) : List Char → List WildcardPart
  | [] => []
  | c :: cs =>
    if signs.escape = some c then
      match cs with
      | [] => [.char c]
      | d :: rest => .char d :: signs.parts rest
    else
      (if c = signs.run then .run else if c = signs.one then .one else .char c) :: signs.parts cs

/-- The whole text is of this form. -/
def WildcardPart.fitAll : List WildcardPart → List Char → Bool
  | [], s => s.isEmpty
  | .run :: parts, s => s.tails.any (fitAll parts)
  | .one :: parts, _ :: s => fitAll parts s
  | .char c :: parts, d :: s => c == d && fitAll parts s
  | _ :: _, [] => false

/-- A text with a wildcard for any run on the sides that are left open. -/
def Wildcards.around (w : Wildcards) (run : Char) (v : List Char) : List Char :=
  match w with
  | .both => run :: (v ++ [run])
  | .left => run :: v
  | .right => v ++ [run]

section Wildcard
variable {signs : WildcardSigns} {v s : List Char}

/-- The character is none of the signs. -/
def WildcardSigns.Plain (signs : WildcardSigns) (c : Char) : Prop :=
  signs.escape ≠ some c ∧ c ≠ signs.run ∧ c ≠ signs.one

theorem WildcardSigns.parts_append (hv : ∀ c ∈ v, signs.Plain c) (rest : List Char) :
    signs.parts (v ++ rest) = v.map .char ++ signs.parts rest := by
  induction v with
  | nil => rfl
  | cons c v ih =>
    obtain ⟨⟨hescape, hrun, hone⟩, hrest⟩ := List.forall_mem_cons.1 hv
    rw [List.cons_append, parts.eq_def]
    simp [hescape, hrun, hone, ih hrest]

theorem WildcardSigns.parts_run (hescape : signs.escape ≠ some signs.run) (rest : List Char) :
    signs.parts (signs.run :: rest) = .run :: signs.parts rest := by
  rw [parts.eq_def]
  simp [hescape]

/-- Plain characters fit nothing but themselves. -/
theorem WildcardPart.fitAll_chars (parts : List WildcardPart) :
    ∀ (v s : List Char), fitAll (v.map .char ++ parts) s = true ↔
      ∃ rest, s = v ++ rest ∧ fitAll parts rest = true
  | [], s => by simp
  | c :: v, [] => by simp [fitAll]
  | c :: v, d :: s => by
    simp only [List.map_cons, List.cons_append, fitAll, Bool.and_eq_true, beq_iff_eq,
      fitAll_chars parts v s, List.cons.injEq]
    constructor
    · rintro ⟨rfl, rest, rfl, hrest⟩
      exact ⟨rest, ⟨rfl, rfl⟩, hrest⟩
    · rintro ⟨rest, ⟨rfl, rfl⟩, hrest⟩
      exact ⟨rfl, rest, rfl, hrest⟩

theorem WildcardPart.fitAll_nil : fitAll [] s = true ↔ s = [] := List.isEmpty_iff

theorem WildcardPart.fitAll_run (parts : List WildcardPart) :
    fitAll (.run :: parts) s = true ↔ ∃ before rest, s = before ++ rest ∧ fitAll parts rest := by
  simp only [fitAll, List.any_eq_true, List.mem_tails, List.IsSuffix]
  constructor
  · rintro ⟨rest, ⟨before, rfl⟩, hrest⟩
    exact ⟨before, rest, rfl, hrest⟩
  · rintro ⟨before, rest, rfl, hrest⟩
    exact ⟨rest, ⟨before, rfl⟩, hrest⟩

theorem WildcardPart.fitAll_only_run : fitAll [.run] s = true :=
  (fitAll_run []).2 ⟨s, [], by simp, rfl⟩

/-- Wildcards around a plain text find it where they leave the text open. -/
theorem WildcardSigns.fitAll_around (hescape : signs.escape ≠ some signs.run)
    (hv : ∀ c ∈ v, signs.Plain c) (w : Wildcards) :
    WildcardPart.fitAll (signs.parts (w.around signs.run v)) s = true ↔ w.Finds v s := by
  have hplain : signs.parts v = v.map .char := by simpa [parts] using parts_append hv []
  have hopen : signs.parts (v ++ [signs.run]) = v.map .char ++ [.run] := by
    rw [parts_append hv, parts_run hescape, parts]
  have hends := WildcardPart.fitAll_chars [] v
  rw [List.append_nil] at hends
  cases w with
  | left =>
    rw [Wildcards.around, parts_run hescape, hplain, WildcardPart.fitAll_run]
    simp only [hends, WildcardPart.fitAll_nil, exists_eq_right, List.append_nil]
    exact exists_congr fun before => eq_comm
  | right =>
    rw [Wildcards.around, hopen, WildcardPart.fitAll_chars]
    simp only [WildcardPart.fitAll_only_run, and_true]
    exact exists_congr fun rest => eq_comm
  | both =>
    rw [Wildcards.around, parts_run hescape, hopen, WildcardPart.fitAll_run]
    simp only [WildcardPart.fitAll_chars, WildcardPart.fitAll_only_run, and_true]
    constructor
    · rintro ⟨before, -, rfl, rest, rfl⟩
      exact ⟨before, rest, List.append_assoc ..⟩
    · rintro ⟨before, rest, rfl⟩
      exact ⟨before, v ++ rest, List.append_assoc .., rest, rfl⟩

end Wildcard

/-! ### Regular expressions -/

/-- A part of a regular expression without repetitions, choices, groups and classes. -/
inductive RegexPart where
  | start
  | stop
  | any
  | char (c : Char)

def RegexPart.ofChar? (c : Char) : Option RegexPart :=
  if c = '^' then some .start
  else if c = '$' then some .stop
  else if c = '.' then some .any
  else if c ∈ ['\\', '*', '+', '?', '(', ')', '[', ']', '\x7b', '\x7d', '|'] then none
  else some (.char c)

/-- The parts of a regular expression, if it has only these. -/
def RegexPart.ofChars? (cs : List Char) : Option (List RegexPart) := cs.mapM RegexPart.ofChar?

/-- A text begins like this. The end of a text is also in front of a last line break. -/
def RegexPart.fitFront (atStart : Bool) : List RegexPart → List Char → Bool
  | [], _ => true
  | .start :: parts, s => atStart && fitFront atStart parts s
  | .stop :: parts, s => (s == [] || s == ['\n']) && fitFront atStart parts s
  | .any :: parts, c :: s => c != '\n' && fitFront false parts s
  | .char c :: parts, d :: s => c == d && fitFront false parts s
  | _ :: _, [] => false

/-- The expression is found somewhere in the text. -/
def RegexPart.found (parts : List RegexPart) (s : List Char) : Bool :=
  s.tails.any fun rest => fitFront (rest.length == s.length) parts rest

section Regex
variable {v s : List Char}

/-- The character stands for itself in a regular expression. -/
def RegexPart.Plain (c : Char) : Prop := RegexPart.ofChar? c = some (.char c)

/-- Plain characters are found where they stand. -/
theorem RegexPart.fitFront_chars (parts : List RegexPart) : ∀ (atStart : Bool) (v s : List Char),
    fitFront atStart (v.map .char ++ parts) s = true ↔
      ∃ rest, s = v ++ rest ∧ fitFront (atStart && v.isEmpty) parts rest = true
  | atStart, [], s => by simp
  | atStart, c :: v, [] => by simp [fitFront]
  | atStart, c :: v, d :: s => by
    have ih := fitFront_chars parts false v s
    simp only [List.map_cons, List.cons_append, fitFront, Bool.and_eq_true, beq_iff_eq, ih,
      List.cons.injEq, List.isEmpty_cons, Bool.and_false, Bool.false_and]
    constructor
    · rintro ⟨rfl, rest, rfl, hrest⟩
      exact ⟨rest, ⟨rfl, rfl⟩, hrest⟩
    · rintro ⟨rest, ⟨rfl, rfl⟩, hrest⟩
      exact ⟨rfl, rest, rfl, hrest⟩

theorem RegexPart.found_iff (parts : List RegexPart) :
    found parts s = true ↔
      ∃ before rest, s = before ++ rest ∧ fitFront before.isEmpty parts rest = true := by
  simp only [found, List.any_eq_true, List.mem_tails, List.IsSuffix]
  have hstart : ∀ before rest : List Char,
      (rest.length == (before ++ rest).length) = before.isEmpty := by
    intro before rest
    cases before with
    | nil => simp
    | cons c before =>
      simp only [List.cons_append, List.length_cons, List.length_append, List.isEmpty_cons,
        beq_eq_false_iff_ne]
      omega
  constructor
  · rintro ⟨rest, ⟨before, rfl⟩, hrest⟩
    exact ⟨before, rest, rfl, by rwa [hstart] at hrest⟩
  · rintro ⟨before, rest, rfl, hrest⟩
    exact ⟨rest, ⟨before, rfl⟩, by rwa [hstart]⟩

/-- A regular expression with anchors where a pattern has no wildcard. -/
def Wildcards.anchored (w : Wildcards) (v : List Char) : List Char :=
  match w with
  | .both => v
  | .left => v ++ ['$']
  | .right => '^' :: v

/-- What an anchored expression consists of. -/
def Wildcards.anchoredParts (w : Wildcards) (v : List Char) : List RegexPart :=
  match w with
  | .both => v.map .char
  | .left => v.map .char ++ [.stop]
  | .right => .start :: v.map .char

theorem RegexPart.ofChars?_anchored (hv : ∀ c ∈ v, RegexPart.Plain c) (w : Wildcards) :
    ofChars? (w.anchored v) = some (w.anchoredParts v) := by
  have hplain : ∀ v : List Char, (∀ c ∈ v, RegexPart.Plain c) →
      v.mapM ofChar? = some (v.map .char) := by
    intro v hv
    induction v with
    | nil => rfl
    | cons c v ih =>
      obtain ⟨hc, hrest⟩ := List.forall_mem_cons.1 hv
      have hc : ofChar? c = some (.char c) := hc
      simp [List.mapM_cons, hc, ih hrest]
  have hstop : ofChar? '$' = some .stop := rfl
  have hstart : ofChar? '^' = some .start := rfl
  cases w <;>
    simp [ofChars?, Wildcards.anchored, Wildcards.anchoredParts, List.mapM_append,
      List.mapM_cons, hplain v hv, hstop, hstart]

/-- Anchors find a plain text at the end and at the beginning, if there is no line break that could
be taken for the end. -/
theorem RegexPart.found_anchoredParts (hs : '\n' ∉ s) (w : Wildcards) :
    found (w.anchoredParts v) s = true ↔ w.Finds v s := by
  have hends : ∀ (atStart : Bool) (rest : List Char),
      fitFront atStart (v.map .char) rest = true ↔ v <+: rest := by
    intro atStart rest
    have h := fitFront_chars [] atStart v rest
    rw [List.append_nil] at h
    simp only [h, fitFront, and_true]
    exact exists_congr fun _ => eq_comm
  rw [found_iff]
  cases w with
  | both =>
    simp only [Wildcards.anchoredParts, hends]
    constructor
    · rintro ⟨before, -, rfl, rest, rfl⟩
      exact ⟨before, rest, List.append_assoc ..⟩
    · rintro ⟨before, rest, rfl⟩
      exact ⟨before, v ++ rest, List.append_assoc .., rest, rfl⟩
  | left =>
    simp only [Wildcards.anchoredParts, fitFront_chars, fitFront, Bool.and_true, Bool.or_eq_true,
      beq_iff_eq]
    constructor
    · rintro ⟨before, -, rfl, rest, rfl, rfl | rfl⟩
      · exact ⟨before, by simp⟩
      · exact absurd (by simp) hs
    · rintro ⟨before, rfl⟩
      exact ⟨before, v, rfl, [], by simp⟩
  | right =>
    simp only [Wildcards.anchoredParts, fitFront, Bool.and_eq_true, hends, List.isEmpty_iff]
    constructor
    · rintro ⟨-, rest, rfl, rfl, hrest⟩
      exact hrest
    · exact fun hrest => ⟨[], s, rfl, rfl, hrest⟩

end Regex

/-! ### Operands in SQL -/

/-- A token of a text expression in SQL. -/
inductive OperandToken where
  | literal (text : List Char)
  | mark
  | concat
  | call
  | comma
  | close

/-- The tokens of a text expression. Inside quotes, `quoted` holds what the literal has in it so
far, and two quotes stand for one. -/
def OperandToken.read (quoted : Option (List Char)) (cs : List Char) :
    Option (List OperandToken) :=
  match quoted, cs with
  | none, [] => some []
  | none, ' ' :: rest => read none rest
  | none, '?' :: rest => (read none rest).map (.mark :: ·)
  | none, ',' :: rest => (read none rest).map (.comma :: ·)
  | none, ')' :: rest => (read none rest).map (.close :: ·)
  | none, '|' :: '|' :: rest => (read none rest).map (.concat :: ·)
  | none, 'C' :: 'O' :: 'N' :: 'C' :: 'A' :: 'T' :: '(' :: rest =>
    (read none rest).map (.call :: ·)
  | none, '\'' :: rest => read (some []) rest
  | none, _ :: _ => none
  | some text, '\'' :: '\'' :: rest => read (some (text ++ ['\''])) rest
  | some text, '\'' :: rest => (read none rest).map (.literal text :: ·)
  | some text, c :: rest => read (some (text ++ [c])) rest
  | some _, [] => none

/-- The text that an expression comes to, its marks standing for the arguments from left to right.
`text` is what has been concatenated at the innermost level and `outer` what has been around it, and
an operand is `due` at the beginning and behind every operator and comma. -/
def OperandToken.evaluate (text : List Char) (due : Bool) (outer : List (List Char))
    (args : Arguments) (tokens : List OperandToken) : Option (List Char) :=
  match due, outer, args, tokens with
  | true, outer, args, .literal cs :: rest => evaluate (text ++ cs) false outer args rest
  | true, outer, .text v :: args, .mark :: rest =>
    evaluate (text ++ v.toList) false outer args rest
  | true, outer, args, .call :: rest => evaluate [] true (text :: outer) args rest
  | false, outer, args, .concat :: rest => evaluate text true outer args rest
  | false, before :: outer, args, .comma :: rest =>
    evaluate text true (before :: outer) args rest
  | false, before :: outer, args, .close :: rest =>
    evaluate (before ++ text) false outer args rest
  | false, [], [], [] => some text
  | _, _, _, _ => none

/-- The text that an expression in SQL comes to. -/
def sqlText? (s : Statement) : Option (List Char) :=
  (OperandToken.read none s.text.toList).bind (OperandToken.evaluate [] true [] s.args)

/-- The operand of a relational LIKE comes to the bound text with its wildcards. -/
theorem sqlText?_pattern {s : Style} (hform : s.dialect.likeForm ≠ .bare)
    (hpattern : s.dialect.likePattern = .unchanged) (w : Wildcards) (v : String) :
    sqlText? ((Fragment.pattern (.text v) w none).write s) = some (w.around '%' v.toList) := by
  have hvalue : s.dialect.patternValue w (.text v) = .text v := by
    simp [Dialect.patternValue, hpattern]
  have hbound : (Fragment.pattern (.text v) w none).write s =
      .bound (s.dialect.patternText w "?") (.text v) := by
    rw [Fragment.write, hvalue]
    rfl
  rw [hbound, sqlText?]
  simp only [Statement.bound, Dialect.patternText]
  cases hlike : s.dialect.likeForm with
  | bare => exact absurd hlike hform
  | operator | call | nestedCall => cases w <;> rfl

/-! ### Backends -/

/-- The signs of a relational LIKE; two of the servers let a backslash take the meaning away from
them. -/
def Backend.likeSigns : Backend → WildcardSigns
  | .mysql | .postgres => ⟨'%', '_', some '\\'⟩
  | _ => ⟨'%', '_', none⟩

/-- The signs of a wildcard query. -/
def querySigns : WildcardSigns := ⟨'*', '?', some '\\'⟩

/-- The backend finds the text `s` with a LIKE that the text `v` is bound to. -/
def Backend.likeFinds (backend : Backend) (w : Wildcards) (v s : String) : Bool :=
  let d := backend.dialect
  match backend.family, d.patternValue w (.text v) with
  | .sql, _ =>
    let operand := (Fragment.pattern (.text v) w none).write { dialect := d, quote := false }
    (sqlText? operand).any fun pattern =>
      WildcardPart.fitAll (backend.likeSigns.parts pattern) s.toList
  | .document, .text pattern =>
    (RegexPart.ofChars? pattern.toList).any fun parts => RegexPart.found parts s.toList
  | .search, .text pattern => WildcardPart.fitAll (querySigns.parts pattern.toList) s.toList
  | _, _ => false

/-- The characters with a meaning of their own in some language of patterns. -/
def metacharacters : List Char :=
  ['%', '_', '*', '?', '\\', '^', '$', '.', '+', '|', '(', ')', '[', ']', '\x7b', '\x7d']

section Plain
variable {c : Char} (hc : c ∉ metacharacters)
include hc

theorem Backend.plain_likeSigns (backend : Backend) : backend.likeSigns.Plain c := by
  simp only [metacharacters, List.mem_cons, not_or] at hc
  cases backend <;> simp_all [likeSigns, WildcardSigns.Plain, eq_comm]

theorem plain_querySigns : querySigns.Plain c := by
  simp only [metacharacters, List.mem_cons, not_or] at hc
  simp_all [querySigns, WildcardSigns.Plain, eq_comm]

theorem RegexPart.plain_of_not_mem : RegexPart.Plain c := by
  simp only [metacharacters, List.mem_cons, not_or] at hc
  simp_all [RegexPart.Plain, RegexPart.ofChar?]

end Plain

/-- A plain text is found alike by all backends: in a text, at its end or at its beginning, as the
wildcards say. -/
theorem like_finds_alike (backend : Backend) (w : Wildcards) {v s : String}
    (hv : ∀ c ∈ v.toList, c ∉ metacharacters) (hs : '\n' ∉ s.toList) :
    backend.likeFinds w v s = true ↔ w.Finds v.toList s.toList := by
  have hlike := fun c hc => backend.plain_likeSigns (hv c hc)
  have hquery := fun c hc => plain_querySigns (hv c hc)
  have hregex := fun c hc => RegexPart.plain_of_not_mem (hv c hc)
  have hanchored : ∃ pattern : String, Dialect.mongo.patternValue w (.text v) = .text pattern ∧
      pattern.toList = w.anchored v.toList := by
    cases w <;> exact ⟨_, rfl, by simp [Wildcards.anchored]⟩
  have haround : ∃ pattern : String, Dialect.elastic.patternValue w (.text v) = .text pattern ∧
      pattern.toList = w.around '*' v.toList := by
    cases w <;> exact ⟨_, rfl, by simp [Wildcards.around]⟩
  cases backend with
  | standard | mysql | postgres | oracle =>
    simp only [Backend.likeFinds, Backend.family]
    rw [sqlText?_pattern (by decide) rfl]
    exact WildcardSigns.fitAll_around (by decide) hlike w
  | mongo =>
    obtain ⟨pattern, hvalue, hpattern⟩ := hanchored
    simp only [Backend.likeFinds, Backend.family, Backend.dialect, hvalue, hpattern,
      RegexPart.ofChars?_anchored hregex, Option.any_some]
    exact RegexPart.found_anchoredParts hs w
  | elastic6 | elastic7 =>
    obtain ⟨pattern, hvalue, hpattern⟩ := haround
    simp only [Backend.likeFinds, Backend.family, Backend.dialect, hvalue, hpattern]
    exact WildcardSigns.fitAll_around (by decide) hquery w

/-- A text at the end of a path is found there, and not elsewhere. -/
theorem like_finds_alike_suffix :
    (∀ c ∈ "a/b".toList, c ∉ metacharacters) ∧ '\n' ∉ "x/a/b".toList ∧
      Backend.oracle.likeFinds .left "a/b" "x/a/b" = true ∧
      Backend.mongo.likeFinds .left "a/b" "x/a/b" = true ∧
      Backend.elastic7.likeFinds .left "a/b" "a/b/c" = false := by
  have hv : ∀ c ∈ "a/b".toList, c ∉ metacharacters := by simp [metacharacters]
  have hs : '\n' ∉ "x/a/b".toList := by decide
  have hfinds : Wildcards.left.Finds "a/b".toList "x/a/b".toList := ⟨['x', '/'], by decide⟩
  refine ⟨hv, hs, (like_finds_alike .oracle .left hv hs).2 hfinds,
    (like_finds_alike .mongo .left hv hs).2 hfinds, ?_⟩
  rw [← Bool.not_eq_true, like_finds_alike .elastic7 .left hv (by decide)]
  show ¬ "a/b".toList <:+ "a/b/c".toList
  decide

end DataCommand
