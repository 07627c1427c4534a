import DataCommand.Fragment
import DataCommand.Proofs.Placeholder.Woven

/-!
Fragments and their operands. A fragment of a relational command is written as a statement that is
woven from its operands, given that the caller's texts have the marks that they should have.
-/

namespace DataCommand

open Text

namespace Fragment

mutual

/-- What a fragment binds, each value with the text that stands for it. -/
def operands (d : Dialect) : Fragment → List Statement
  | .bound v term => [.bound (term.getD "?") v]
  | .pattern v wildcards term => [.bound (term.getD "?") (d.patternValue wildcards v)]
  | .verbatim text args => [⟨text, args⟩]
  | .assignment _ v term => if v.isNull && term.isNone then [] else [.bound (term.getD "?") v]
  | .joined _ items => operandsOfAll d items
  | _ => []

def operandsOfAll (d : Dialect) : List Fragment → List Statement
  | [] => []
  | f :: rest => operands d f ++ operandsOfAll d rest

end

mutual

/-- The caller's texts have the marks that they should have: names and expressions over columns have
none, an expression around a value has one, and a text with its own arguments has one for each. -/
def Templated : Fragment → Prop
  | .column name term | .projection name term | .groupKey name term =>
    marks name = 0 ∧ Unmarked term
  | .sortKey name term _ _ => marks name = 0 ∧ Unmarked term
  | .target t => t.Unmarked
  | .bound _ term => IsTemplate term
  | .pattern _ _ term => IsTemplate term
  | .verbatim text args => marks text = args.length
  | .assignment name _ term => marks name = 0 ∧ IsTemplate term
  | .joined _ items => AllTemplated items
  | .word _ | .openParen | .closeParen => True

def AllTemplated : List Fragment → Prop
  | [] => True
  | f :: rest => Templated f ∧ AllTemplated rest

end

mutual

/-- The library's own texts, which are words and separators, have no marks. -/
def Neutral : Fragment → Prop
  | .word text => marks text = 0
  | .joined separator items => marks separator = 0 ∧ AllNeutral items
  | _ => True

def AllNeutral : List Fragment → Prop
  | [] => True
  | f :: rest => Neutral f ∧ AllNeutral rest

end

theorem operandsOfAll_eq_flatMap (d : Dialect) (items : List Fragment) :
    operandsOfAll d items = items.flatMap (operands d) := by
  induction items with
  | nil => rfl
  | cons f rest ih => simp [operandsOfAll, ih]

theorem allTemplated_iff (items : List Fragment) :
    AllTemplated items ↔ ∀ f ∈ items, Templated f := by
  induction items with
  | nil => simp [AllTemplated]
  | cons f rest ih => simp [AllTemplated, ih]

theorem allNeutral_iff (items : List Fragment) : AllNeutral items ↔ ∀ f ∈ items, Neutral f := by
  induction items with
  | nil => simp [AllNeutral]
  | cons f rest ih => simp [AllNeutral, ih]

end Fragment

/-- A style that brings no marks of its own. -/
structure Style.Unmarked (s : Style) : Prop where
  dialect : s.dialect.Unmarked
  terms : ∀ p ∈ s.terms, Text.Unmarked p.2

namespace Style
variable {s : Style} (hs : s.Unmarked)
include hs

theorem Unmarked.projected (column : String) : Text.Unmarked (s.projected column) := by
  unfold Style.projected
  cases h : s.terms.lookup column with
  | none => simp [Text.Unmarked]
  | some term =>
    obtain ⟨before, after, hterms, -⟩ := List.lookup_eq_some_iff.1 h
    have := hs.terms (column, term) (by simp [hterms])
    simpa using this

/-- A key is written without marks. -/
theorem Unmarked.key (byAlias : Bool) {column : String} {term : Option String}
    (hcolumn : marks column = 0) (hterm : Text.Unmarked term) :
    marks (s.key byAlias column term) = 0 := by
  have hname := hs.dialect.identifier s.quote hcolumn
  have hprojected := hs.projected column
  unfold Style.key
  split
  · rename_i t
    exact hterm t rfl
  · rename_i t heq
    split
    · exact hname
    · exact hprojected t heq
  · exact hname

theorem Unmarked.sortKey {column : String} {term : Option String} (hcolumn : marks column = 0)
    (hterm : Text.Unmarked term) (order : SortOrder) (nulls : NullsPlace) :
    marks (s.sortKey column term order nulls) = 0 := by
  have hkey := hs.key s.dialect.ordersByAlias hcolumn hterm
  have horder : marks ((order.keyword.map (" " ++ ·)).getD "") = 0 := by cases order <;> rfl
  have hnulls : marks ((nulls.keyword.map (" " ++ ·)).getD "") = 0 := by cases nulls <;> rfl
  have hsteer : ∀ expr, marks expr = 0 → marks (s.dialect.nullsKey expr nulls) = 0 := by
    intro expr hexpr
    unfold Dialect.nullsKey
    split
    · rw [marks_append, hexpr]; rfl
    · rw [marks_append, hexpr]; rfl
    · rfl
  unfold Style.sortKey
  split <;> simp [hkey, horder, hnulls, hsteer _ hkey]

end Style

namespace Fragment

/-- The operand of LIKE stands in text without marks. -/
theorem woven_pattern (d : Dialect) (wildcards : Wildcards) {term : String} (hterm : marks term = 1)
    (v : Value) :
    Woven [.bound term v] (.bound (d.patternText wildcards term) v) := by
  have around : ∀ (left right : String), marks left = 0 → marks right = 0 →
      Woven [.bound term v] (.bound (left ++ term ++ right) v) := by
    intro left right hleft hright
    have h := ((Woven.bound hterm v).plain_append hleft).append_plain hright
    have hsum : Statement.plain left ++ .bound term v ++ .plain right =
        .bound (left ++ term ++ right) v := Statement.ext rfl (by simp [Statement.bound])
    rwa [hsum] at h
  unfold Dialect.patternText
  split
  · simpa using around "'%' || " "" rfl rfl
  · simpa using around "" " || '%'" rfl rfl
  · exact around "'%' || " " || '%'" rfl rfl
  · exact around "CONCAT('%', " ")" rfl rfl
  · exact around "CONCAT(" ", '%')" rfl rfl
  · exact around "CONCAT('%', " ", '%')" rfl rfl
  · exact around "CONCAT('%', " ")" rfl rfl
  · exact around "CONCAT(" ", '%')" rfl rfl
  · exact around "CONCAT(CONCAT('%', " "), '%')" rfl rfl
  · exact .bound hterm v

mutual

/-- A fragment is written as a statement woven from its operands. -/
theorem woven_write {s : Style} (hs : s.Unmarked) : (f : Fragment) → f.Templated → f.Neutral →
    Woven (f.operands s.dialect) (f.write s)
  | .word _, _, hn => .plain hn
  | .openParen, _, _ => .plain rfl
  | .closeParen, _, _ => .plain rfl
  | .column name term, ⟨hname, hterm⟩, _ =>
    .plain (hterm.getD (hs.dialect.identifier s.quote hname))
  | .target t, ht, _ => .plain (hs.dialect.targetText s.quote ht)
  | .bound v term, ht, _ => .bound ht.marks_getD v
  | .pattern v wildcards term, ht, _ =>
    woven_pattern s.dialect wildcards ht.marks_getD (s.dialect.patternValue wildcards v)
  | .verbatim text args, ht, _ => .single ht
  | .projection name (some t), ⟨hname, hterm⟩, _ =>
    .plain (by simp [hterm t rfl, hs.dialect.separator,
      show marks (s.identifier name) = 0 from hs.dialect.identifier s.quote hname])
  | .projection name none, ⟨hname, _⟩, _ => .plain (hs.dialect.identifier s.quote hname)
  | .groupKey name term, ⟨hname, hterm⟩, _ => .plain (hs.key s.dialect.groupsByAlias hname hterm)
  | .sortKey name term order nulls, ⟨hname, hterm⟩, _ => .plain (hs.sortKey hname hterm order nulls)
  | .assignment name v term, ⟨hname, hterm⟩, _ => by
    have hname : marks (s.identifier name) = 0 := hs.dialect.identifier s.quote hname
    rw [operands, write]
    split
    · exact .plain (by simp [hname, show marks " = NULL" = 0 from rfl])
    · have hgap : marks (s.identifier name ++ " = ") = 0 := by
        simp [hname, show marks " = " = 0 from rfl]
      exact (Woven.bound hterm.marks_getD v).plain_append hgap
  | .joined separator items, ht, ⟨hsep, hn⟩ => by
    have h := woven_writeAll hs items ht hn separator hsep
    rwa [operands, write]

/-- Fragments with a separator between neighbours are written as a statement woven from their
operands. -/
theorem woven_writeAll {s : Style} (hs : s.Unmarked) : (items : List Fragment) →
    AllTemplated items → AllNeutral items → ∀ separator : String, marks separator = 0 →
    Woven (operandsOfAll s.dialect items) (.join separator (writeAll s items))
  | [], _, _, _, _ => .plain rfl
  | [f], ⟨ht, _⟩, ⟨hn, _⟩, separator, _ => by
    simpa [operandsOfAll, writeAll, Statement.join_singleton] using woven_write hs f ht hn
  | f :: g :: rest, ⟨ht, htrest⟩, ⟨hn, hnrest⟩, separator, hsep => by
    have htail := woven_writeAll hs (g :: rest) htrest hnrest separator hsep
    rw [operandsOfAll, writeAll, writeAll, Statement.join_cons_cons]
    exact (woven_write hs f ht hn).append (htail.plain_append hsep)

end

end Fragment

end DataCommand
