import DataCommand.Proofs.Mask.Document
import DataCommand.Proofs.Reading.Token

/-!
Documents read back from their texts. A reader takes one token after the other and keeps, for every
object and list that is still open, what it has read of it. In front of any text that ends a word,
the text of a document takes the reader from a place where a value is due to the place behind that
document. So both notations determine the document.
-/

namespace DataCommand.Document

/-! ### The reader -/

/-- An object or a list that is still open, with what has been read of it, last one first. -/
inductive Pending where
  | items (read : List (Document Unit))
  /-- The key is the one whose value is due. -/
  | entries (read : List (String × Document Unit)) (key : String)

/-- Where a reader is. -/
inductive Place where
  /-- A value is due. -/
  | value (outer : List Pending)
  /-- A key is due, or the end of the object if nothing has been read of it. -/
  | key (read : List (String × Document Unit)) (outer : List Pending)
  | colon (read : List (String × Document Unit)) (key : String) (outer : List Pending)
  /-- A value has been read. -/
  | behind (d : Document Unit) (outer : List Pending)

namespace Place

/-- Takes a token. Keys need no quotes if `bareKeys` is set. -/
def step (bareKeys : Bool) : Token → Place → Option Place
  | .mark '?', value outer => some (behind (.hole ()) outer)
  | .int n, value outer => some (behind (.int n) outer)
  | .quoted text, value outer => some (behind (.str text) outer)
  | .word name, value outer => if name = "null" then some (behind .null outer) else none
  | .mark '[', value outer => some (value (.items [] :: outer))
  | .mark ']', value (.items [] :: outer) => some (behind (.array []) outer)
  | .mark '\x7b', value outer => some (key [] outer)
  | .mark '\x7d', key [] outer => some (behind (.object []) outer)
  | .quoted name, key read outer => some (colon read name outer)
  | .word name, key read outer => if bareKeys then some (colon read name outer) else none
  | .mark ':', colon read name outer => some (value (.entries read name :: outer))
  | .mark ',', behind d (.items read :: outer) => some (value (.items (d :: read) :: outer))
  | .mark ']', behind d (.items read :: outer) => some (behind (.array (d :: read).reverse) outer)
  | .mark ',', behind d (.entries read name :: outer) => some (key ((name, d) :: read) outer)
  | .mark '\x7d', behind d (.entries read name :: outer) =>
    some (behind (.object ((name, d) :: read).reverse) outer)
  | _, _ => none

/-- The document that has been read if nothing is open. -/
def document? : Place → Option (Document Unit)
  | behind d [] => some d
  | _ => none

/-- Reads on to the end of the text. -/
def readOn (bareKeys : Bool) (place : Place) (cs : List Char) : Option (Document Unit) :=
  match _hnext : Token.next? cs with
  | some (t, rest) => (place.step bareKeys t).bind fun place => readOn bareKeys place rest
  | none => if (Json.skipGap cs).isEmpty then place.document? else none
termination_by cs.length
decreasing_by exact Token.length_of_next? ‹_›

end Place

/-- The document that a text in compact JSON denotes; an empty place is a question mark. -/
def ofJson? (text : String) : Option (Document Unit) := (Place.value []).readOn false text.toList

/-- The document that a text in shell notation denotes. -/
def ofShell? (text : String) : Option (Document Unit) := (Place.value []).readOn true text.toList

namespace Place
variable {bareKeys : Bool} {place place' : Place} {cs rest : List Char} {t : Token}

theorem readOn_eq (bareKeys : Bool) (place : Place) (cs : List Char) :
    place.readOn bareKeys cs =
      match Token.next? cs with
      | some (t, rest) => (place.step bareKeys t).bind fun place => place.readOn bareKeys rest
      | none => if (Json.skipGap cs).isEmpty then place.document? else none := by
  rw [readOn]
  split <;> simp_all

/-- A token that fits takes the reader on. -/
theorem readOn_of_step (hnext : Token.next? cs = some (t, rest))
    (hstep : place.step bareKeys t = some place') :
    place.readOn bareKeys cs = place'.readOn bareKeys rest := by
  simp [readOn_eq bareKeys place cs, hnext, hstep]

theorem readOn_mark {c : Char} (hc : c ∈ punctuation)
    (hstep : place.step bareKeys (.mark c) = some place') :
    place.readOn bareKeys (c :: cs) = place'.readOn bareKeys cs :=
  readOn_of_step (Token.next?_mark hc cs) hstep

theorem readOn_space : place.readOn bareKeys (' ' :: cs) = place.readOn bareKeys cs := by
  have hgap : Json.skipGap (' ' :: cs) = Json.skipGap cs := rfl
  rw [readOn_eq, readOn_eq bareKeys place cs, Token.next?_space, hgap]

end Place

/-! ### The text of a document -/

section Termless
variable {β : Type}

mutual

/-- No hole is written as an expression of the caller. -/
def termless : Document β → Bool
  | .term _ _ => false
  | .object entries => termlessEntries entries
  | .array items => termlessItems items
  | .hole _ | .null | .int _ | .str _ => true

def termlessEntries : List (String × Document β) → Bool
  | [] => true
  | (_, d) :: rest => termless d && termlessEntries rest

def termlessItems : List (Document β) → Bool
  | [] => true
  | d :: rest => termless d && termlessItems rest

end

end Termless

/-- A spelling whose separators and keys the reader takes for what they are. -/
structure ReadBy (bareKeys : Bool) (s : Spelling) : Prop where
  ends : ∀ rest, Ends (s.separator.toList ++ rest)
  separator : ∀ {place place' : Place} (rest : List Char),
    place.step bareKeys (.mark ',') = some place' →
      place.readOn bareKeys (s.separator.toList ++ rest) = place'.readOn bareKeys rest
  key : ∀ name read outer rest,
    (Place.key read outer).readOn bareKeys ((s.key name ++ s.colon).toList ++ rest) =
      (Place.value (.entries read name :: outer)).readOn bareKeys rest

theorem readBy_inJson : ReadBy false inJson where
  ends rest := ends_cons rfl
  separator rest hstep := Place.readOn_mark (by decide) hstep
  key name read outer rest := by
    have hnext := Token.next?_jsonQuoted name (inJson.colon.toList ++ rest)
    rw [String.toList_append, List.append_assoc]
    exact (Place.readOn_of_step hnext rfl).trans (Place.readOn_mark (by decide) rfl)

theorem ends_inShell_colon (rest : List Char) : Ends (inShell.colon.toList ++ rest) :=
  ends_cons rfl

theorem readBy_inShell : ReadBy true inShell where
  ends rest := ends_cons rfl
  separator rest hstep := (Place.readOn_mark (by decide) hstep).trans Place.readOn_space
  key name read outer rest := by
    have hnext := Token.next?_shellKey name (ends_inShell_colon rest)
    have hstep : (Place.key read outer).step true (Token.ofShellKey name) =
        some (.colon read name outer) := by
      unfold Token.ofShellKey
      split <;> rfl
    rw [String.toList_append, List.append_assoc]
    exact (Place.readOn_of_step hnext hstep).trans
      ((Place.readOn_mark (by decide) rfl).trans Place.readOn_space)

section Spelled
variable {β : Type} {bareKeys : Bool} {s : Spelling}

-- By recursion on the document. The rest has to end a word only for the sake of `null` and of
-- numerals; what has been read of the objects and lists around is kept in `read` and `outer`.
mutual

/-- The text of a document takes a reader behind the document. -/
theorem readOn_spelled (hs : ReadBy bareKeys s) : ∀ (d : Document β), d.termless = true →
    ∀ (outer : List Pending) (rest : List Char), Ends rest →
      (Place.value outer).readOn bareKeys ((d.spelled s).toList ++ rest) =
        (Place.behind d.bare outer).readOn bareKeys rest
  | .hole _, _, outer, rest, _ => by
    rw [spelled, bare]
    exact Place.readOn_of_step (t := .mark '?') (Token.next?_mark (by decide) rest) rfl
  | .term _ _, hd, _, _, _ => by cases hd
  | .null, _, outer, rest, hrest =>
    have hnull : isBare "null" = true := rfl
    Place.readOn_of_step (Token.next?_of_isBare hnull hrest) rfl
  | .int n, _, outer, rest, hrest => Place.readOn_of_step (Token.next?_toString n hrest) rfl
  | .str text, _, outer, rest, _ => Place.readOn_of_step (Token.next?_jsonQuoted text rest) rfl
  | .object entries, hd, outer, rest, _ => by
    have hclosed := readOn_spelledEntries hs entries
    rw [spelled, bare, String.toList_append, String.toList_append, List.append_assoc,
      List.append_assoc]
    refine (Place.readOn_mark (c := '\x7b') (by decide) rfl).trans ?_
    by_cases hnil : entries = []
    · subst hnil
      exact Place.readOn_mark (by decide) rfl
    · exact hclosed hnil (by simpa [termless] using hd) [] outer rest
  | .array items, hd, outer, rest, _ => by
    have hclosed := readOn_spelledItems hs items
    rw [spelled, bare, String.toList_append, String.toList_append, List.append_assoc,
      List.append_assoc]
    refine (Place.readOn_mark (c := '[') (by decide) rfl).trans ?_
    by_cases hnil : items = []
    · subst hnil
      exact Place.readOn_mark (by decide) rfl
    · exact hclosed hnil (by simpa [termless] using hd) [] outer rest

/-- The entries of an object take a reader behind the object. -/
theorem readOn_spelledEntries (hs : ReadBy bareKeys s) : ∀ entries : List (String × Document β),
    entries ≠ [] → termlessEntries entries = true →
    ∀ (read : List (String × Document Unit)) (outer : List Pending) (rest : List Char),
      (Place.key read outer).readOn bareKeys
          ((Text.join s.separator (spelledEntries s entries)).toList ++ '\x7d' :: rest) =
        (Place.behind (.object (read.reverse ++ bareEntries entries)) outer).readOn bareKeys rest
  | [], hnil, _, _, _, _ => absurd rfl hnil
  | (name, d) :: entries, _, hd, read, outer, rest => by
    obtain ⟨hd, hentries⟩ := Bool.and_eq_true_iff.1 hd
    have hvalue := readOn_spelled hs d hd (.entries read name :: outer)
    have hothers := readOn_spelledEntries hs entries
    cases entries with
    | nil =>
      have hends : Ends ('\x7d' :: rest) := ends_cons rfl
      rw [spelledEntries, spelledEntries, Text.join, String.toList_append, List.append_assoc,
        hs.key, hvalue _ hends]
      refine (Place.readOn_mark (by decide) rfl).trans ?_
      rw [List.reverse_cons, bareEntries, bareEntries]
    | cons e entries =>
      have htexts : spelledEntries s (e :: entries) ≠ [] := List.cons_ne_nil _ _
      rw [spelledEntries, Text.join_cons htexts]
      simp only [String.toList_append, List.append_assoc]
      rw [← List.append_assoc, ← String.toList_append, hs.key, hvalue _ (hs.ends _),
        hs.separator _ rfl, hothers (List.cons_ne_nil _ _) hentries, List.reverse_cons,
        List.append_assoc]
      rfl

/-- The items of a list take a reader behind the list. -/
theorem readOn_spelledItems (hs : ReadBy bareKeys s) : ∀ items : List (Document β),
    items ≠ [] → termlessItems items = true →
    ∀ (read : List (Document Unit)) (outer : List Pending) (rest : List Char),
      (Place.value (.items read :: outer)).readOn bareKeys
          ((Text.join s.separator (spelledItems s items)).toList ++ ']' :: rest) =
        (Place.behind (.array (read.reverse ++ bareItems items)) outer).readOn bareKeys rest
  | [], hnil, _, _, _, _ => absurd rfl hnil
  | d :: items, _, hd, read, outer, rest => by
    obtain ⟨hd, hitems⟩ := Bool.and_eq_true_iff.1 hd
    have hvalue := readOn_spelled hs d hd (.items read :: outer)
    have hothers := readOn_spelledItems hs items
    cases items with
    | nil =>
      have hends : Ends (']' :: rest) := ends_cons rfl
      rw [spelledItems, spelledItems, Text.join, hvalue _ hends]
      refine (Place.readOn_mark (by decide) rfl).trans ?_
      rw [List.reverse_cons, bareItems, bareItems]
    | cons e items =>
      have htexts : spelledItems s (e :: items) ≠ [] := List.cons_ne_nil _ _
      rw [spelledItems, Text.join_cons htexts]
      simp only [String.toList_append, List.append_assoc]
      rw [hvalue _ (hs.ends _), hs.separator _ rfl, hothers (List.cons_ne_nil _ _) hitems,
        List.reverse_cons, List.append_assoc]
      rfl

end

end Spelled

mutual

theorem bare_eq_self : ∀ d : Document Unit, d.bare = d
  | .hole _ | .term _ _ | .null | .int _ | .str _ => rfl
  | .object entries => by rw [bare, bareEntries_eq_self entries]
  | .array items => by rw [bare, bareItems_eq_self items]

theorem bareEntries_eq_self : ∀ entries : List (String × Document Unit),
    bareEntries entries = entries
  | [] => rfl
  | (key, d) :: rest => by rw [bareEntries, bare_eq_self d, bareEntries_eq_self rest]

theorem bareItems_eq_self : ∀ items : List (Document Unit), bareItems items = items
  | [] => rfl
  | d :: rest => by rw [bareItems, bare_eq_self d, bareItems_eq_self rest]

end

/-! ### Reading back -/

section Back
variable {β : Type} {d : Document β}

/-- A text of which nothing is left is the text of what has been read. -/
theorem readOn_of_spelled {bareKeys : Bool} {s : Spelling} (hs : ReadBy bareKeys s)
    (hd : d.termless = true) :
    (Place.value []).readOn bareKeys (d.spelled s).toList = some d.bare := by
  have hread := readOn_spelled hs d hd [] [] ends_nil
  rw [List.append_nil] at hread
  rw [hread, Place.readOn_eq]
  rfl

/-- Compact JSON is read back as the document with nothing in its holes. -/
theorem ofJson?_json (hd : d.termless = true) : ofJson? d.json = some d.bare := by
  rw [ofJson?, json_eq_spelled, readOn_of_spelled readBy_inJson hd]

theorem ofShell?_shell (hd : d.termless = true) : ofShell? d.shell = some d.bare := by
  rw [ofShell?, shell_eq_spelled, readOn_of_spelled readBy_inShell hd]

end Back

/-- Both notations are read back, so that no two documents share a text: strings and quoted keys are
one token each in front of any text, and so are the keys of a shell in front of their colons. -/
theorem documents_read_back {d : Document Unit} (hd : d.termless = true) :
    ofJson? d.json = some d ∧ ofShell? d.shell = some d ∧
    (∀ e : Document Unit, e.termless = true →
      (e.json = d.json → e = d) ∧ (e.shell = d.shell → e = d)) ∧
    (∀ (text : String) (rest : List Char),
      Token.next? ((Text.jsonQuoted text).toList ++ rest) = some (.quoted text, rest)) ∧
    ∀ (key : String) (rest : List Char),
      Token.next? ((shellKey key).toList ++ (inShell.colon.toList ++ rest)) =
        some (.ofShellKey key, inShell.colon.toList ++ rest) := by
  have hjson : ∀ e : Document Unit, e.termless = true → ofJson? e.json = some e := fun e he => by
    rw [ofJson?_json he, bare_eq_self]
  have hshell : ∀ e : Document Unit, e.termless = true → ofShell? e.shell = some e :=
    fun e he => by rw [ofShell?_shell he, bare_eq_self]
  refine ⟨hjson d hd, hshell d hd, fun e he => ⟨fun heq => ?_, fun heq => ?_⟩,
    Token.next?_jsonQuoted, fun key rest => Token.next?_shellKey key (ends_inShell_colon rest)⟩
  · have hread := hjson e he
    rw [heq, hjson d hd] at hread
    exact (Option.some.inj hread).symm
  · have hread := hshell e he
    rw [heq, hshell d hd] at hread
    exact (Option.some.inj hread).symm

/-- Keys and strings that look like the ends of their own tokens. -/
theorem documents_read_back_lookalikes :
    let d : Document Unit := .object
      [("", .hole ()), ("a\x22:?,\x22b", .str "\x22\x7d,?\\"),
        ("$in", .array [.int (-10), .null, .str "?"]), ("null", .object []),
        ("null", .str "\n\x01")]
    ofJson? d.json = some d ∧ ofShell? d.shell = some d := by
  intro d
  have hback := documents_read_back (d := d) rfl
  exact ⟨hback.1, hback.2.1⟩

end DataCommand.Document
