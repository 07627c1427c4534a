import DataCommand.Backend.Basic
import DataCommand.Proofs.TargetParts
import Mathlib.Data.List.DropRight

/-!
Dotted targets. A text with at most two dots names a target if something stands behind the last of
them. A dialect writes a target as a dotted text again, without its blank qualifiers and with quotes
around reserved words, and that text settles: it names a target that is written in the same parts.
-/

namespace DataCommand

/-! ### Dotted texts -/

namespace Text

/-- What stands behind the last place of a character; all of the text if the character is not in
it. -/
def behindLast (sep : Char) (s : String) : String := String.ofList (s.toList.rtakeWhile (· != sep))

theorem rtakeWhile_append_cons (sep : Char) (front rest : List Char) :
    (front ++ sep :: rest).rtakeWhile (· != sep) = rest.rtakeWhile (· != sep) := by
  induction rest using List.reverseRecOn with
  | nil => exact List.rtakeWhile_concat_neg _ _ _ (by simp)
  | append_singleton rest c ih =>
    rw [← List.cons_append, ← List.append_assoc, List.rtakeWhile_concat, List.rtakeWhile_concat, ih]

theorem getLast?_splitAt (sep : Char) (cs : List Char) :
    (splitAt sep cs).getLast? = some (cs.rtakeWhile (· != sep)) := by
  by_cases hsep : sep ∈ cs
  · obtain ⟨front, rest, rfl, hfront⟩ := List.eq_append_cons_of_mem hsep
    have ih := getLast?_splitAt sep rest
    rw [splitAt_append_cons hfront, List.getLast?_cons, ih, rtakeWhile_append_cons]
    rfl
  · have hall : cs.rtakeWhile (· != sep) = cs :=
      List.rtakeWhile_eq_self_iff.2 fun c hc => by simpa using ne_of_mem_of_not_mem hc hsep
    rw [splitAt_of_not_mem hsep, hall]
    rfl
termination_by cs.length

/-- Texts that are joined at a character that none of them holds are the pieces of the whole. -/
theorem pieces_join {sep : Char} {separator : String} (hsep : separator.toList = [sep]) :
    ∀ {texts : List String}, texts ≠ [] → (∀ text ∈ texts, sep ∉ text.toList) →
      pieces sep (join separator texts) = texts
  | [], hsome, _ => absurd rfl hsome
  | [text], _, h => by
    rw [join, pieces, splitAt_of_not_mem (h text (by simp))]
    simp
  | text :: other :: texts, _, h => by
    obtain ⟨htext, hrest⟩ := List.forall_mem_cons.1 h
    have ih := pieces_join hsep (List.cons_ne_nil other texts) hrest
    rw [pieces] at ih
    rw [join, pieces, String.toList_append, String.toList_append, hsep, List.append_assoc,
      List.singleton_append, splitAt_append_cons htext, List.map_cons, ih, String.ofList_toList]

end Text

namespace Target

/-! ### Texts that name a target -/

/-- The parts of a dotted text. -/
def partsOf (dotted : String) : List String := (Text.pieces '.' dotted).map Text.trim

theorem parse_eq_ok_iff {dotted : String} {t : Target} :
    parse dotted = .ok t ↔ ofParts? (partsOf dotted) = some t ∧ t.table ≠ "" := by
  unfold parse partsOf
  cases ofParts? ((Text.pieces '.' dotted).map Text.trim) with
  | none => simp
  | some u =>
    simp only [Option.some.injEq]
    split
    · rename_i hblank
      simp only [reduceCtorEq, false_iff, not_and, not_not]
      rintro rfl
      exact hblank
    · rename_i hsome
      simp only [Except.ok.injEq]
      exact ⟨fun h => ⟨h, h ▸ hsome⟩, And.left⟩

/-- Up to three parts make a target, and the last of them is its table. -/
theorem ofParts?_cases (parts : List String) :
    (parts = [] ∨ 3 < parts.length) ∧ ofParts? parts = none ∨
      ∃ t, parts.length ≤ 3 ∧ ofParts? parts = some t ∧ parts.getLast? = some t.table := by
  match parts with
  | [] => exact .inl ⟨.inl rfl, rfl⟩
  | [_] | [_, _] | [_, _, _] => exact .inr ⟨_, by simp, rfl, rfl⟩
  | _ :: _ :: _ :: _ :: _ => exact .inl ⟨.inr (by simp), rfl⟩

theorem partsOf_ne_nil (dotted : String) : partsOf dotted ≠ [] := by
  simp [partsOf, Text.pieces, Text.splitAt_ne_nil]

theorem length_partsOf (dotted : String) :
    (partsOf dotted).length = dotted.toList.count '.' + 1 := by
  simp [partsOf, Text.pieces, Text.length_splitAt]

theorem getLast?_partsOf (dotted : String) :
    (partsOf dotted).getLast? = some (Text.trim (Text.behindLast '.' dotted)) := by
  simp [partsOf, Text.pieces, Text.getLast?_splitAt, Text.behindLast]

/-- A text names a target if it has at most two dots, and something behind the last one. -/
theorem exists_parse_eq_ok_iff (dotted : String) :
    (∃ t, parse dotted = .ok t) ↔
      dotted.toList.count '.' ≤ 2 ∧ Text.isBlank (Text.behindLast '.' dotted) = false := by
  have hlength := length_partsOf dotted
  simp only [parse_eq_ok_iff]
  rcases ofParts?_cases (partsOf dotted) with ⟨hmany, hnone⟩ | ⟨t, hfew, hsome, hlast⟩
  · have hdots : ¬ dotted.toList.count '.' ≤ 2 := by
      have := hmany.resolve_left (partsOf_ne_nil dotted)
      omega
    simp [hnone, hdots]
  · have hdots : dotted.toList.count '.' ≤ 2 := by omega
    have htable : t.table = Text.trim (Text.behindLast '.' dotted) := by
      rw [getLast?_partsOf, Option.some.injEq] at hlast
      exact hlast.symm
    have hblank : t.table ≠ "" ↔ Text.isBlank (Text.behindLast '.' dotted) = false := by
      rw [htable, Ne, Text.trim_eq_empty_iff, Bool.not_eq_true]
    simp [hsome, hdots, hblank]

/-! ### Parts between dots -/

/-- A name that can stand between the dots of a target, where it is neither cut nor trimmed. -/
structure IsPart (name : String) : Prop where
  noDot : '.' ∉ name.toList
  tight : Text.Tight name
  nonempty : name ≠ ""

theorem IsPart.isBlank {name : String} (h : IsPart name) : Text.isBlank name = false := by
  rw [← Bool.not_eq_true, Text.isBlank_iff_of_tight h.tight]
  exact h.nonempty

/-- The parts of a text are what their names say, if they are not blank. -/
theorem isPart_of_mem_partsOf {dotted name : String} (h : name ∈ partsOf dotted)
    (hname : Text.isBlank name = false) : IsPart name := by
  obtain ⟨piece, hpiece, rfl⟩ := List.mem_map.1 h
  obtain ⟨cs, hcs, rfl⟩ := List.mem_map.1 hpiece
  refine ⟨fun hdot => ?_, Text.tight_trim _, ?_⟩
  · have hmem := Text.mem_of_mem_trim hdot
    rw [String.toList_ofList] at hmem
    exact Text.not_mem_of_mem_splitAt '.' _ cs hcs hmem
  · intro hempty
    rw [hempty] at hname
    cases hname

theorem names_of_ofParts? {parts : List String} {t : Target} (h : ofParts? parts = some t) :
    t.names = parts := by
  match parts with
  | [] | _ :: _ :: _ :: _ :: _ => cases h
  | [_] | [_, _] | [_, _, _] =>
    cases h
    rfl

theorem isBlank_table_of_parse {dotted : String} {t : Target} (h : parse dotted = .ok t) :
    Text.isBlank t.table = false := by
  obtain ⟨hparts, htable⟩ := parse_eq_ok_iff.1 h
  have hmem : t.table ∈ partsOf dotted := names_of_ofParts? hparts ▸ t.table_mem_names
  obtain ⟨piece, -, htrim⟩ := List.mem_map.1 hmem
  rw [← htrim] at htable ⊢
  rw [← Bool.not_eq_true, Text.isBlank_iff_of_tight (Text.tight_trim piece)]
  exact htable

/-- Whatever the form, what is written of a target that a text names are parts. -/
theorem isPart_of_mem_targetParts {dotted : String} {t : Target} (h : parse dotted = .ok t)
    {form : TargetForm} {name : String} (hname : name ∈ Dialect.targetParts form t) :
    IsPart name := by
  have hnames : t.names = partsOf dotted := names_of_ofParts? (parse_eq_ok_iff.1 h).1
  have htable := isBlank_table_of_parse h
  have hblank := (Dialect.forall_targetParts_iff (.inl htable) form).2 (.inl htable) name hname
  rcases Dialect.mem_names_of_mem_targetParts (.inl htable) hname with hgiven | ⟨-, rfl⟩
  · exact isPart_of_mem_partsOf (hnames ▸ hgiven) hblank
  · exact ⟨by decide, by simp [Text.Tight, Text.isSpace], by decide⟩

/-- How many parts a form writes of a target with a table. -/
def partCounts : TargetForm → List Nat
  | .dotted => [1, 2, 3]
  | .owned => [1, 2]
  | .database => [2]
  | .index => [1]

theorem length_targetParts {t : Target} (ht : Text.isBlank t.table = false) (form : TargetForm) :
    (Dialect.targetParts form t).length ∈ partCounts form := by
  cases form with
  | dotted =>
    cases hc : Text.unlessBlank t.catalog <;> cases hs : Text.unlessBlank t.schema <;>
      simp [Dialect.targetParts, partCounts, hc, hs, Text.unlessBlank_some, ht]
  | owned =>
    cases howner : (Text.unlessBlank t.schema).or (Text.unlessBlank t.catalog) <;>
      simp [Dialect.targetParts, partCounts, howner]
  | database | index => simp [Dialect.targetParts, partCounts]

/-- As many parts as a form writes make a target of which it writes them all. -/
theorem targetParts_ofParts? {form : TargetForm} {written : List String}
    (hcount : written.length ∈ partCounts form)
    (hwritten : ∀ name ∈ written, Text.isBlank name = false) :
    ∃ u, ofParts? written = some u ∧ Dialect.targetParts form u = written := by
  have hsome : ∀ name ∈ written, Text.unlessBlank (some name) = some name := fun name hname =>
    Text.unlessBlank_eq_some_iff.2 ⟨rfl, hwritten name hname⟩
  have hnone : Text.unlessBlank none = none := rfl
  match written with
  | [] | _ :: _ :: _ :: _ :: _ => cases form <;> simp [partCounts] at hcount
  | [_] | [_, _] | [_, _, _] =>
    refine ⟨_, rfl, ?_⟩
    cases form <;> simp_all [partCounts, Dialect.targetParts]

end Target

/-! ### Names that are written again -/

/-- A name between the quotes of a dialect can stand between dots, and is not taken for a reserved
word. -/
structure Settles (d : Dialect) : Prop where
  left : d.leftQuote ≠ '.' ∧ Text.isSpace d.leftQuote = false
  right : d.rightQuote ≠ '.' ∧ Text.isSpace d.rightQuote = false
  reserved : ∀ word ∈ d.reserved ++ d.alsoReserved,
    (foldCase word).head? ≠ some d.leftQuote.toLower

theorem settles_backend (backend : Backend) : Settles backend.dialect := by
  cases backend <;> exact ⟨by decide, by decide, by decide +kernel⟩

theorem mem_of_mem_doubleQuotes {right c : Char} {name : List Char}
    (h : c ∈ doubleQuotes right name) : c ∈ name := by
  induction name with
  | nil => exact h
  | cons d name ih =>
    rw [doubleQuotes] at h
    split at h <;> simp_all <;> tauto

namespace Settles
variable {d : Dialect} (hd : Settles d)
include hd

theorem reserves_delimit (name : String) :
    d.reserves (delimit d.leftQuote d.rightQuote name) = false := by
  have hhead : (foldCase (delimit d.leftQuote d.rightQuote name)).head? =
      some d.leftQuote.toLower := by
    simp [foldCase, delimit]
  simp only [Dialect.reserves, List.any_eq_false, beq_iff_eq]
  intro word hword heq
  exact hd.reserved word hword (heq ▸ hhead)

theorem isPart_delimit {name : String} (hname : '.' ∉ name.toList) :
    Target.IsPart (delimit d.leftQuote d.rightQuote name) where
  noDot := by
    have hquoted : '.' ∉ doubleQuotes d.rightQuote name.toList :=
      fun h => hname (mem_of_mem_doubleQuotes h)
    simp [delimit, hquoted, hd.left.1.symm, hd.right.1.symm]
  tight := by simp [Text.Tight, delimit, hd.left.2, hd.right.2, List.getLast?_cons]
  nonempty := by simp [delimit]

/-- What is written for a part is a part again. -/
theorem isPart_identifier {name : String} (h : Target.IsPart name) :
    Target.IsPart (d.identifier false name) := by
  unfold Dialect.identifier
  split
  · exact h
  · split
    · exact hd.isPart_delimit h.noDot
    · exact h

/-- What is written for a name is written as it is. -/
theorem identifier_identifier (name : String) :
    d.identifier false (d.identifier false name) = d.identifier false name := by
  unfold Dialect.identifier
  cases d.naming with
  | verbatim => rfl
  | delimited =>
    cases hname : d.reserves name with
    | true => simp [hd.reserves_delimit]
    | false => simp [hname]

end Settles

/-- What is written for the parts of a target names a target of which the same is written. -/
theorem Settles.parse_targetText {d : Dialect} (hd : Settles d) {dotted : String} {t : Target}
    (ht : Target.parse dotted = .ok t) :
    ∃ again, Target.parse (d.targetText false t) = .ok again ∧
      Dialect.targetParts d.targetForm again =
        (Dialect.targetParts d.targetForm t).map (d.identifier false) := by
  have hpart : ∀ name ∈ (Dialect.targetParts d.targetForm t).map (d.identifier false),
      Target.IsPart name :=
    List.forall_mem_map.2 fun _ hname =>
      hd.isPart_identifier (Target.isPart_of_mem_targetParts ht hname)
  have hcount := Target.length_targetParts (Target.isBlank_table_of_parse ht) d.targetForm
  rw [← List.length_map (d.identifier false)] at hcount
  obtain ⟨again, hagain, hparts⟩ :=
    Target.targetParts_ofParts? hcount fun name hname => (hpart name hname).isBlank
  have hnil : (Dialect.targetParts d.targetForm t).map (d.identifier false) ≠ [] := by
    rintro hnil
    rw [hnil] at hcount
    cases hform : d.targetForm <;> simp [Target.partCounts, hform] at hcount
  have hread : Target.partsOf (d.targetText false t) =
      (Dialect.targetParts d.targetForm t).map (d.identifier false) := by
    rw [Target.partsOf, Dialect.targetText,
      Text.pieces_join (by decide) hnil fun name hname => (hpart name hname).noDot]
    have htrim := List.map_congr_left fun name hname => Text.trim_of_tight (hpart name hname).tight
    exact htrim.trans (List.map_id _)
  have htable : again.table ≠ "" :=
    (hpart _ (Target.names_of_ofParts? hagain ▸ again.table_mem_names)).nonempty
  exact ⟨again, Target.parse_eq_ok_iff.2 ⟨hread ▸ hagain, htable⟩, hparts⟩

/-- A text names a target exactly if it has at most two dots and the part behind the last of them is
not blank. What any backend writes for the target names one, too: all parts of it are written just
as they were for the first, and so the text is the same. -/
theorem dotted_targets_settle (dotted : String) :
    ((∃ t, Target.parse dotted = .ok t) ↔
      dotted.toList.count '.' ≤ 2 ∧ Text.isBlank (Text.behindLast '.' dotted) = false) ∧
    ∀ t, Target.parse dotted = .ok t → ∀ backend : Backend,
      let d := backend.dialect
      let written (u : Target) := (Dialect.targetParts d.targetForm u).map (d.identifier false)
      ∃ again, Target.parse (d.targetText false t) = .ok again ∧ written again = written t ∧
        d.targetText false again = d.targetText false t := by
  refine ⟨Target.exists_parse_eq_ok_iff dotted, ?_⟩
  intro t ht backend d written
  have hd : Settles d := settles_backend backend
  obtain ⟨again, hparse, hparts⟩ := hd.parse_targetText ht
  have hwritten : written again = written t := by
    show List.map _ _ = List.map _ _
    rw [hparts, List.map_map]
    exact List.map_congr_left fun name _ => hd.identifier_identifier name
  exact ⟨again, hparse, hwritten, congrArg (Text.join ".") hwritten⟩

/-- White space goes and a blank qualifier is left out; what is reserved stands between quotes, and
is not quoted again. -/
theorem dotted_targets_settle_reserved :
    let t : Target := { catalog := some "a", schema := some "", table := "order" }
    let d := Backend.oracle.dialect
    Target.parse " a . .order " = .ok t ∧
      ∃ again, Target.parse (d.targetText false t) = .ok again ∧
        d.targetText false t = "a.\x22order\x22" ∧
        d.targetText false again = "a.\x22order\x22" := by
  intro t d
  have hparse : Target.parse " a . .order " = .ok t := by rfl
  have htext : d.targetText false t = "a.\x22order\x22" := by decide +kernel
  obtain ⟨again, hagain, -, hsame⟩ := (dotted_targets_settle _).2 t hparse .oracle
  exact ⟨hparse, again, hagain, htext, hsame.trans htext⟩

end DataCommand
