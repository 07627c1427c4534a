import DataCommand.CommandFile.Reference

/-!
References are replaced once, from left to right. A text has exactly one reading as literal text
with references in between: literal text goes up to where a reference opens, and a name up to the
first brace that closes it. The reading alone decides what the text is expanded to, and the values
of the variables have no part in it; so what a variable holds is copied as it is.
-/

namespace DataCommand

/-- Text in which no reference opens. -/
abbrev Literal := { cs : List Char // ¬['$', '\x7b'] <:+: cs }

/-- Text that closes no reference. -/
abbrev Enclosed := { cs : List Char // '\x7d' ∉ cs }

/-- A text as literal text with references in between. -/
inductive Reading where
  /-- Literal text up to the end. -/
  | literal (front : Literal)
  /-- A reference opens behind literal text, and is never closed. -/
  | unclosed (front : Literal) (rest : Enclosed)
  | reference (front : Literal) (name : Enclosed) (behind : Reading)

namespace Reading

/-- The text that is read. -/
def text : Reading → List Char
  | literal front => front
  | unclosed front rest => front ++ '$' :: '\x7b' :: rest
  | reference front name behind => front ++ '$' :: '\x7b' :: (name ++ '\x7d' :: behind.text)

/-- Every reference that opens is closed. -/
def isClosed : Reading → Bool
  | literal _ => true
  | unclosed _ _ => false
  | reference _ _ behind => behind.isClosed

/-- The names of the references that are closed. -/
def names : Reading → List String
  | literal _ | unclosed _ _ => []
  | reference _ name behind => String.ofList name :: behind.names

/-- The literal text with the values of the references in between. -/
def replaced (value : String → String) : Reading → String
  | literal front | unclosed front _ => String.ofList front
  | reference front name behind =>
    String.ofList front ++ value (String.ofList name) ++ behind.replaced value

/-- The first reference that cannot be replaced, as a fault of the text `whole`. -/
def fault? (env : Environment) (whole : String) : Reading → Option FileFault
  | literal _ => none
  | unclosed _ _ => some (.unclosedReference whole)
  | reference _ name behind =>
    if String.ofList name = "" then some (.namelessReference whole)
    else if (env (String.ofList name)).isNone then some (.undefinedVariable (String.ofList name))
    else behind.fault? env whole

/-- Every reference can be replaced exactly if all of them are closed, named and defined. -/
theorem fault?_eq_none_iff (env : Environment) (whole : String) (r : Reading) :
    r.fault? env whole = none ↔
      r.isClosed = true ∧ ∀ name ∈ r.names, name ≠ "" ∧ (env name).isSome = true := by
  induction r with
  | literal | unclosed => simp [fault?, isClosed, names]
  | reference front name behind ih =>
    simp only [fault?, isClosed, names, List.forall_mem_cons]
    by_cases hname : String.ofList name.val = ""
    · simp [hname]
    · cases hvalue : env (String.ofList name.val) with
      | none => simp [hname]
      | some value => simp [hname, ih]

end Reading

/-! ### Every text has one reading -/

/-- No reference opens in literal text if none opens at its front, and none behind that. -/
theorem literal_cons_iff {c : Char} {cs : List Char} :
    ¬['$', '\x7b'] <:+: c :: cs ↔ ¬(c = '$' ∧ cs.head? = some '\x7b') ∧ ¬['$', '\x7b'] <:+: cs := by
  rw [List.infix_cons_iff, not_or]
  cases cs with
  | nil => simp
  | cons d cs => simp [eq_comm]

/-- A text is literal up to its end, or up to where the first reference opens. -/
theorem literal_or_opens : ∀ cs : List Char, ¬['$', '\x7b'] <:+: cs ∨
    ∃ (front : Literal) (rest : List Char), cs = front ++ '$' :: '\x7b' :: rest
  | [] => .inl (by simp)
  | c :: cs => by
    by_cases hopens : c = '$' ∧ cs.head? = some '\x7b'
    · obtain ⟨rfl, hhead⟩ := hopens
      obtain ⟨rest, rfl⟩ := List.head?_eq_some_iff.1 hhead
      exact .inr ⟨⟨[], by simp⟩, rest, rfl⟩
    · rcases literal_or_opens cs with hliteral | ⟨front, rest, rfl⟩
      · exact .inl (literal_cons_iff.2 ⟨hopens, hliteral⟩)
      · refine .inr ⟨⟨c :: front, literal_cons_iff.2 ⟨?_, front.2⟩⟩, rest, rfl⟩
        -- the front may be empty, but a brace does not follow it
        rintro ⟨rfl, hhead⟩
        refine hopens ⟨rfl, ?_⟩
        rw [List.head?_append, hhead]
        rfl

/-- Behind literal text there is nothing in front of the first opening. -/
theorem eq_nil_of_opens {front between rest rest' : List Char}
    (hliteral : ¬['$', '\x7b'] <:+: front ++ between)
    (heq : '$' :: '\x7b' :: rest = between ++ '$' :: '\x7b' :: rest') :
    between = [] ∧ rest = rest' := by
  match between, heq with
  | [], heq => exact ⟨rfl, by simpa using heq⟩
  | [_], heq => simp at heq
  | c :: d :: more, heq =>
    obtain ⟨rfl, rfl, -⟩ : '$' = c ∧ '\x7b' = d ∧ _ := by simpa using heq
    exact absurd ⟨front, more, by simp⟩ hliteral

/-- Where the first reference opens is settled. -/
theorem opening_unique {front front' : Literal} {rest rest' : List Char}
    (heq : front.val ++ '$' :: '\x7b' :: rest = front' ++ '$' :: '\x7b' :: rest') :
    front = front' ∧ rest = rest' := by
  rcases List.append_eq_append_iff.1 heq with ⟨between, hfront', hrest⟩ | ⟨between, hfront, hrest⟩
  · obtain ⟨rfl, rfl⟩ := eq_nil_of_opens (hfront' ▸ front'.2) hrest
    exact ⟨Subtype.ext (by simpa using hfront'.symm), rfl⟩
  · obtain ⟨rfl, rfl⟩ := eq_nil_of_opens (hfront ▸ front.2) hrest
    exact ⟨Subtype.ext (by simpa using hfront), rfl⟩

/-- Where a reference is closed is settled, too. -/
theorem closing_unique {name name' : Enclosed} {behind behind' : List Char}
    (heq : name.val ++ '\x7d' :: behind = name' ++ '\x7d' :: behind') :
    name = name' ∧ behind = behind' := by
  obtain ⟨hname, hbehind⟩ := Text.eq_of_append_cons_eq name.2 name'.2 heq
  exact ⟨Subtype.ext hname, hbehind⟩

namespace Reading

/-- Literal text is not a text in which a reference opens. -/
theorem literal_ne_opens (literal : Literal) (front rest : List Char) :
    literal.val ≠ front ++ '$' :: '\x7b' :: rest :=
  fun h => literal.2 (h ▸ ⟨front, rest, by simp⟩)

/-- A text is read in no two ways. -/
theorem eq_of_text_eq : ∀ {r r' : Reading}, r.text = r'.text → r = r'
  | literal _, literal _, h => congrArg literal (Subtype.ext h)
  | literal front, unclosed front' _, h | literal front, reference front' _ _, h =>
    absurd h (literal_ne_opens front front' _)
  | unclosed front _, literal front', h | reference front _ _, literal front', h =>
    absurd h.symm (literal_ne_opens front' front _)
  | unclosed front rest, unclosed front' rest', h => by
    obtain ⟨rfl, hrest⟩ := opening_unique h
    rw [Subtype.ext hrest]
  | unclosed front rest, reference front' name behind, h => by
    obtain ⟨-, hrest⟩ := opening_unique h
    exact absurd (by simp [hrest]) rest.2
  | reference front name behind, unclosed front' rest, h => by
    obtain ⟨-, hrest⟩ := opening_unique h
    exact absurd (by simp [← hrest]) rest.2
  | reference front name behind, reference front' name' behind', h => by
    obtain ⟨rfl, hname⟩ := opening_unique h
    obtain ⟨rfl, hbehind⟩ := closing_unique hname
    rw [eq_of_text_eq hbehind]

/-- Every text can be read. -/
theorem exists_text_eq (cs : List Char) : ∃ r : Reading, r.text = cs := by
  rcases literal_or_opens cs with hliteral | ⟨front, rest, rfl⟩
  · exact ⟨literal ⟨cs, hliteral⟩, rfl⟩
  by_cases hclose : '\x7d' ∈ rest
  · obtain ⟨name, behind, rfl, hname⟩ := List.eq_append_cons_of_mem hclose
    obtain ⟨r, rfl⟩ := exists_text_eq behind
    exact ⟨reference front ⟨name, hname⟩ r, rfl⟩
  · exact ⟨unclosed front ⟨rest, hclose⟩, rfl⟩
termination_by cs.length
decreasing_by
  simp_all
  omega

end Reading

/-! ### What a text is expanded to -/

namespace Piece

/-- A character is one of the text if it does not open a reference. -/
theorem scan_char {c : Char} {cs : List Char} (h : ¬(c = '$' ∧ cs.head? = some '\x7b')) :
    scan none (c :: cs) = .char c :: scan none cs := by
  rw [scan]
  rintro rest rfl rfl
  exact h ⟨rfl, rfl⟩

/-- The pieces of literal text are its characters, if no brace follows it. -/
theorem scan_literal : ∀ {front : List Char} {rest : List Char}, ¬['$', '\x7b'] <:+: front →
    rest.head? ≠ some '\x7b' →
    scan none (front ++ rest) = front.map .char ++ scan none rest
  | [], _, _, _ => rfl
  | c :: front, rest, hliteral, hrest => by
    obtain ⟨hopens, hfront⟩ := literal_cons_iff.1 hliteral
    have hnot : ¬(c = '$' ∧ (front ++ rest).head? = some '\x7b') := by
      cases front with
      | nil => simp [hrest]
      | cons d front => simpa using hopens
    rw [List.cons_append, scan_char hnot, scan_literal hfront hrest]
    rfl

/-- A name is read up to the brace that closes it. -/
theorem scan_name : ∀ {name : List Char} (acc behind : List Char), '\x7d' ∉ name →
    scan (some acc) (name ++ '\x7d' :: behind) =
      scan (some (name.reverse ++ acc)) ('\x7d' :: behind)
  | [], _, _, _ => rfl
  | c :: name, acc, behind, hname => by
    obtain ⟨hc, hname⟩ : c ≠ '\x7d' ∧ '\x7d' ∉ name := by simpa [eq_comm] using hname
    rw [List.cons_append, scan, if_neg hc, scan_name (c :: acc) behind hname]
    simp

theorem scan_unclosed : ∀ {rest : List Char} (acc : List Char), '\x7d' ∉ rest →
    scan (some acc) rest = [.unclosed]
  | [], _, _ => by rw [scan]
  | c :: rest, acc, hrest => by
    obtain ⟨hc, hrest⟩ : c ≠ '\x7d' ∧ '\x7d' ∉ rest := by simpa [eq_comm] using hrest
    rw [scan, if_neg hc, scan_unclosed (c :: acc) hrest]

theorem expandAll_append_chars (env : Environment) (whole : String) (rest : List Piece) :
    ∀ front : List Char, expandAll env whole (front.map .char ++ rest) =
      (expandAll env whole rest).map (String.ofList front ++ ·)
  | [] => by cases h : expandAll env whole rest <;> simp [Except.map, h]
  | c :: front => by
    have ih := expandAll_append_chars env whole rest front
    rw [List.map_cons, List.cons_append, expandAll, expand, ih]
    cases expandAll env whole rest with
    | error e => rfl
    | ok t => simp [Except.map, String.ofList_cons, String.append_assoc]

end Piece

/-- The text of a reading is expanded to what the reading says, or fails with its fault. -/
theorem Reading.expandAll_scan (env : Environment) (whole : String) : ∀ r : Reading,
    Piece.expandAll env whole (Piece.scan none r.text) =
      match r.fault? env whole with
      | some fault => .error fault
      | none => .ok (r.replaced fun name => (env name).getD "")
  | literal front => by
    have hscan : Piece.scan none (front.val ++ []) = front.val.map .char ++ Piece.scan none [] :=
      Piece.scan_literal front.2 (by simp)
    rw [List.append_nil] at hscan
    rw [text, hscan, Piece.expandAll_append_chars]
    simp [Piece.scan, Piece.expandAll, fault?, replaced, Except.map]
  | unclosed front rest => by
    rw [text, Piece.scan_literal front.2 (by simp), Piece.scan, Piece.scan_unclosed [] rest.2,
      Piece.expandAll_append_chars]
    rfl
  | reference front name behind => by
    have ih := expandAll_scan env whole behind
    rw [text, Piece.scan_literal front.2 (by simp), Piece.scan, Piece.scan_name [] _ name.2,
      List.append_nil, Piece.scan, if_pos rfl, Piece.expandAll_append_chars, Piece.expandAll, ih]
    have hempty : name.val.reverse.isEmpty = true ↔ String.ofList name.val = "" := by
      rw [← String.toList_inj, String.toList_ofList]
      simp
    simp only [hempty, List.reverse_reverse, fault?]
    by_cases hname : String.ofList name.val = ""
    · simp only [if_pos hname, Piece.expand]
      rfl
    · simp only [if_neg hname, Piece.expand]
      cases hvalue : env (String.ofList name.val) with
      | none => rfl
      | some value =>
        cases hfault : behind.fault? env whole <;>
          simp [replaced, hvalue, Except.map, String.append_assoc]

/-- The reading of a text is unique, and the text is expanded as its reading says: not at all if a
reference is never closed, has no name or is not defined, and else to the literal text with the
values of the references in between, whatever these values are. A text in which no reference opens
stays as it is. -/
theorem references_replaced_once (env : Environment) (text : String) :
    (∃ r : Reading, r.text = text.toList ∧ (∀ r' : Reading, r'.text = text.toList → r' = r) ∧
      (∀ out, expandReferences env text = .ok out ↔
        r.isClosed = true ∧ (∀ name ∈ r.names, name ≠ "" ∧ (env name).isSome = true) ∧
          out = r.replaced fun name => (env name).getD "") ∧
      ∀ fault, expandReferences env text = .error fault ↔ r.fault? env text = some fault) ∧
    (¬['$', '\x7b'] <:+: text.toList → expandReferences env text = .ok text) := by
  have hexpand : ∀ r : Reading, r.text = text.toList → expandReferences env text =
      match r.fault? env text with
      | some fault => .error fault
      | none => .ok (r.replaced fun name => (env name).getD "") := by
    intro r hr
    rw [expandReferences, Piece.ofText, ← hr, r.expandAll_scan]
  obtain ⟨r, hr⟩ := Reading.exists_text_eq text.toList
  refine ⟨⟨r, hr, fun r' hr' => Reading.eq_of_text_eq (hr'.trans hr.symm), fun out => ?_,
    fun fault => ?_⟩, fun hliteral => ?_⟩
  · rw [hexpand r hr, ← and_assoc, ← r.fault?_eq_none_iff env text]
    cases r.fault? env text <;> simp [eq_comm]
  · rw [hexpand r hr]
    cases r.fault? env text <;> simp
  · rw [hexpand (.literal ⟨text.toList, hliteral⟩) rfl]
    simp [Reading.fault?, Reading.replaced]

/-- A variable that holds a reference to itself, and one with a name that opens a reference. -/
def hostileVariables : Environment
  | "A" => some "$\x7bA\x7d"
  | "$\x7bB" => some "b"
  | _ => none

/-- A value that looks like a reference is copied, a name may hold what looks like an opening, and
neither dollar signs nor closing braces mean anything alone. -/
theorem references_replaced_once_hostileVariables :
    expandReferences hostileVariables "<$\x7bA\x7d$$\x7b$\x7bB\x7d\x7d" =
        .ok "<$\x7bA\x7d$b\x7d" ∧
      ¬['$', '\x7b'] <:+: "\x7d$ \x7bA\x7d".toList ∧
      expandReferences hostileVariables "\x7d$ \x7bA\x7d" = .ok "\x7d$ \x7bA\x7d" := by
  have hliteral : ¬['$', '\x7b'] <:+: "\x7d$ \x7bA\x7d".toList := by decide
  obtain ⟨r, -, hunique, hok, -⟩ :=
    (references_replaced_once hostileVariables "<$\x7bA\x7d$$\x7b$\x7bB\x7d\x7d").1
  -- the reading of the text in so many words
  obtain rfl := hunique
    (.reference ⟨['<'], by decide⟩ ⟨['A'], by decide⟩
      (.reference ⟨['$'], by decide⟩ ⟨['$', '\x7b', 'B'], by decide⟩
        (.literal ⟨['\x7d'], by decide⟩))) rfl
  refine ⟨(hok _).2 ⟨rfl, by decide, rfl⟩, hliteral, ?_⟩
  exact (references_replaced_once hostileVariables "\x7d$ \x7bA\x7d").2 hliteral

end DataCommand
