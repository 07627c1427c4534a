import DataCommand.Backend.Basic

/-!
Quoted names read back. A reader of a quoted name looks for the first closing quote that is not
doubled, so it finds the name whatever stands in it, and stops behind it. That is enough to take
lists of columns and qualified targets apart again, since no separator begins with a quote.
-/

namespace DataCommand

/-- The characters up to the first closing quote that is not doubled, and what follows it. -/
def untilClosing (right : Char) : List Char → Option (List Char × List Char)
  | [] => none
  | c :: cs =>
    if c = right then
      match cs with
      | [] => some ([], [])
      | d :: rest =>
        if d = right then (untilClosing right rest).map fun r => (right :: r.1, r.2)
        else some ([], d :: rest)
    else (untilClosing right cs).map fun r => (c :: r.1, r.2)

/-- Reads a quoted name off the front of a text. -/
def readDelimited (left right : Char) : List Char → Option (List Char × List Char)
  | [] => none
  | c :: cs => if c = left then untilClosing right cs else none

theorem length_lt_of_untilClosing {right : Char} {cs name rest : List Char}
    (h : untilClosing right cs = some (name, rest)) : rest.length < cs.length := by
  fun_induction untilClosing right cs generalizing name rest with
  | case1 => cases h
  | case2 | case4 => simp_all
  | case3 _ ih | case5 _ _ _ ih =>
    obtain ⟨r, hr, heq⟩ := Option.map_eq_some_iff.1 h
    have := ih hr
    simp_all
    omega

theorem length_lt_of_readDelimited {left right : Char} {cs name rest : List Char}
    (h : readDelimited left right cs = some (name, rest)) : rest.length < cs.length := by
  cases cs with
  | nil => cases h
  | cons c cs =>
    rw [readDelimited] at h
    split at h
    · exact Nat.lt_succ_of_lt (length_lt_of_untilClosing h)
    · cases h

/-- Reads quoted names with a separator between each two neighbours, up to the end of the text. -/
def readNames (left right : Char) (separator cs : List Char) : Option (List String) :=
  match h : readDelimited left right cs with
  | none => none
  | some (name, []) => some [String.ofList name]
  | some (name, c :: rest) =>
    have := length_lt_of_readDelimited h
    if separator.isPrefixOf (c :: rest) then
      (readNames left right separator ((c :: rest).drop separator.length)).map
        (String.ofList name :: ·)
    else none
termination_by cs.length
decreasing_by
  simp only [List.length_drop]
  omega

/-- The names of a list of quoted names; an empty text has none. -/
def namesOf? (left right : Char) (separator text : String) : Option (List String) :=
  if text = "" then some [] else readNames left right separator.toList text.toList

section Reading
variable {left right : Char}

/-- Whatever stands in a name, its closing quote is found. -/
theorem untilClosing_doubleQuotes {rest : List Char} (hrest : rest.head? ≠ some right) :
    ∀ name : List Char, untilClosing right (doubleQuotes right name ++ right :: rest) =
      some (name, rest)
  | [] => by
    cases rest with
    | nil => simp [doubleQuotes, untilClosing]
    | cons d rest =>
      have hd : d ≠ right := by simpa using hrest
      simp [doubleQuotes, untilClosing, hd]
  | c :: name => by
    have ih := untilClosing_doubleQuotes hrest name
    by_cases hc : c = right
    · subst hc
      simp [doubleQuotes, untilClosing, ih]
    · rw [doubleQuotes, if_neg hc, List.cons_append, untilClosing.eq_def]
      simp [hc, ih]

theorem readDelimited_delimit (left : Char) (name : String) {rest : List Char}
    (hrest : rest.head? ≠ some right) :
    readDelimited left right ((delimit left right name).toList ++ rest) =
      some (name.toList, rest) := by
  simp [delimit, readDelimited, untilClosing_doubleQuotes hrest]

/-- A text that is a single name is read to its end. -/
theorem readDelimited_delimit_end (left right : Char) (name : String) :
    readDelimited left right (delimit left right name).toList = some (name.toList, []) := by
  have hend : ([] : List Char).head? ≠ some right := by simp
  simpa using readDelimited_delimit left name hend

theorem readNames_delimit (left right : Char) (separator : List Char) (name : String) :
    readNames left right separator (delimit left right name).toList = some [name] := by
  have hread := readDelimited_delimit_end left right name
  rw [readNames.eq_def]
  split <;> simp_all

theorem readNames_of_separator {c : Char} {separator cs name rest : List Char}
    (h : readDelimited left right cs = some (name, c :: separator ++ rest)) :
    readNames left right (c :: separator) cs =
      (readNames left right (c :: separator) rest).map (String.ofList name :: ·) := by
  rw [readNames.eq_def]
  split <;> simp_all

/-- One name is read off the front of a list, since the separator does not begin with a quote. -/
theorem readNames_delimit_append {separator : List Char} {c : Char}
    (hhead : separator.head? = some c) (hc : c ≠ right) (name : String) (rest : List Char) :
    readNames left right separator ((delimit left right name).toList ++ (separator ++ rest)) =
      (readNames left right separator rest).map (name :: ·) := by
  obtain ⟨tail, rfl⟩ := List.head?_eq_some_iff.1 hhead
  have hend : (c :: tail ++ rest).head? ≠ some right := by simpa using hc
  rw [readNames_of_separator (readDelimited_delimit left name hend), String.ofList_toList]

/-- Names that are joined by a separator are read one by one. -/
theorem readNames_join (left : Char) {separator : String} {c : Char}
    (hhead : separator.toList.head? = some c) (hc : c ≠ right) :
    ∀ (name : String) (names : List String),
      readNames left right separator.toList
          (Text.join separator ((name :: names).map (delimit left right))).toList =
        some (name :: names)
  | name, [] => by
    rw [List.map_singleton, Text.join, readNames_delimit]
  | name, other :: names => by
    have ih := readNames_join left hhead hc other names
    rw [List.map_cons] at ih
    rw [List.map_cons, List.map_cons, Text.join, String.toList_append, String.toList_append,
      List.append_assoc, readNames_delimit_append hhead hc, ih]
    rfl

/-- A list of quoted names is read name by name, also if it is empty. -/
theorem namesOf?_join {separator : String} {c : Char} (hhead : separator.toList.head? = some c)
    (hc : c ≠ right) (names : List String) :
    namesOf? left right separator (Text.join separator (names.map (delimit left right))) =
      some names := by
  cases names with
  | nil => rfl
  | cons name names =>
    have hread := readNames_join left hhead hc name names
    have hsome : Text.join separator ((name :: names).map (delimit left right)) ≠ "" := by
      cases names <;> simp [Text.join, delimit]
    rw [namesOf?, if_neg hsome, hread]

end Reading

namespace Dialect
variable {d : Dialect}

theorem identifier_quoted (hnaming : d.naming = .delimited) (name : String) :
    d.identifier true name = delimit d.leftQuote d.rightQuote name := by
  simp [identifier, hnaming]

/-- Two names are never quoted alike. -/
theorem identifier_quoted_injective (hnaming : d.naming = .delimited) :
    Function.Injective (d.identifier true) := by
  intro name other heq
  rw [identifier_quoted hnaming, identifier_quoted hnaming] at heq
  have hname := readDelimited_delimit_end d.leftQuote d.rightQuote name
  rw [heq, readDelimited_delimit_end, Option.some.injEq, Prod.mk.injEq] at hname
  exact String.toList_inj.1 hname.1.symm

/-- The columns of a list are those that it was written for. -/
theorem namesOf?_identifiers (hnaming : d.naming = .delimited) (hcomma : ',' ≠ d.rightQuote)
    (columns : List String) :
    namesOf? d.leftQuote d.rightQuote ", " (d.identifiers true columns) = some columns := by
  rw [identifiers, funext (identifier_quoted hnaming)]
  exact namesOf?_join rfl hcomma columns

/-- The parts of a target are those that the dialect keeps. -/
theorem namesOf?_targetText (hnaming : d.naming = .delimited) (hdot : '.' ≠ d.rightQuote)
    (t : Target) :
    namesOf? d.leftQuote d.rightQuote "." (d.targetText true t) =
      some (targetParts d.targetForm t) := by
  rw [targetText, funext (identifier_quoted hnaming)]
  exact namesOf?_join rfl hdot _

end Dialect

/-- A quoted name is read up to where it ends, whatever it is. So the columns of a list, and the
parts of a target, are read back from their quoted form: in Oracle the table behind its innermost
qualifier, elsewhere all parts that are not blank. -/
theorem quoted_names_read_back :
    (∀ (left right : Char) (name : String) (rest : List Char), rest.head? ≠ some right →
      readDelimited left right ((delimit left right name).toList ++ rest) =
        some (name.toList, rest)) ∧
    ∀ backend : Backend, backend.family = .sql →
      let d := backend.dialect
      let namesIn := namesOf? d.leftQuote d.rightQuote
      (∀ columns : List String, namesIn ", " (d.identifiers true columns) = some columns) ∧
      ∀ t : Target, namesIn "." (d.targetText true t) =
        some (if backend = .oracle then
            ((Text.unlessBlank t.schema).or (Text.unlessBlank t.catalog)).toList ++ [t.table]
          else [t.catalog, t.schema, some t.table].filterMap Text.unlessBlank) := by
  refine ⟨fun left right name rest => readDelimited_delimit left name, ?_⟩
  intro backend hsql d namesIn
  cases backend with
  | standard | mysql | postgres | oracle =>
    exact ⟨Dialect.namesOf?_identifiers rfl (by decide),
      Dialect.namesOf?_targetText rfl (by decide)⟩
  | mongo | elastic6 | elastic7 => cases hsql

/-- Quotes, separators and line breaks in names lead no reader astray. -/
theorem quoted_names_read_back_hostileNames :
    readDelimited '[' ']' "[a]]].]".toList = some ("a]".toList, ".]".toList) ∧
      Backend.mysql.family = .sql ∧
      namesOf? '\x60' '\x60' ", " "\x60a\x60\x60, \x60\x60b\x60, \x60\x60" =
        some ["a\x60, \x60b", ""] ∧
      namesOf? '\x22' '\x22' "." "\x22h.r\x22.\x22\n\x22\x22\x22" = some ["h.r", "\n\x22"] := by
  have hmysql := quoted_names_read_back.2 .mysql rfl
  have horacle := quoted_names_read_back.2 .oracle rfl
  refine ⟨quoted_names_read_back.1 '[' ']' "a]" ['.', ']'] (by decide), rfl,
    hmysql.1 ["a\x60, \x60b", ""], ?_⟩
  exact horacle.2 { catalog := some "c", schema := some "h.r", table := "\n\x22" }

end DataCommand
