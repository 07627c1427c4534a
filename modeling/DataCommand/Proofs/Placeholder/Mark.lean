import DataCommand.Backend.Basic
import DataCommand.SearchCommand.Endpoint
import DataCommand.Text.Quoted

/-!
Marks: the places of a text that a reader takes for placeholders. Nothing that the library writes of
its own accord has one, and quoting neither adds nor hides one.
-/

namespace DataCommand

namespace Text

/-- How many marks a text has. -/
def marks (s : String) : Nat := s.toList.count '?'

@[simp]
theorem marks_append (s t : String) : marks (s ++ t) = marks s + marks t := by simp [marks]

theorem marks_ofList (cs : List Char) : marks (String.ofList cs) = cs.count '?' := by simp [marks]

theorem marks_join {separator : String} (hsep : marks separator = 0) :
    ∀ texts : List String, (∀ s ∈ texts, marks s = 0) → marks (join separator texts) = 0
  | [], _ => rfl
  | [s], h => h s (by simp)
  | s :: t :: rest, h => by
    have htail := marks_join hsep (t :: rest) fun u hu => h u (by simp_all)
    simp [join, h s (by simp), hsep, htail]

theorem marks_joinAll (texts : List String) (h : ∀ s ∈ texts, marks s = 0) :
    marks (String.join texts) = 0 := by
  simp only [marks, String.toList_join, List.count_eq_zero, List.mem_flatMap, not_exists, not_and]
  intro s hs
  exact List.count_eq_zero.1 (h s hs)

/-- Digits are no marks. -/
@[simp]
theorem marks_toString_nat (n : Nat) : marks (toString n) = 0 := by
  have hdigits : '?' ∉ (toString n).toList := by
    intro h
    have h : '?' ∈ Nat.toDigits 10 n := by simpa using h
    exact absurd (Nat.isDigit_of_mem_toDigits (by decide) (by decide) h) (by decide)
  exact List.count_eq_zero.2 hdigits

@[simp]
theorem marks_toString_int (n : Int) : marks (toString n) = 0 := by
  cases n with
  | ofNat n => exact marks_toString_nat n
  | negSucc n =>
    have h : toString (Int.negSucc n) = "-" ++ toString (n + 1) := rfl
    rw [h, marks_append, marks_toString_nat]
    rfl

theorem count_jsonEscape (c : Char) : (jsonEscape c).count '?' = [c].count '?' := by
  have hdigit : ∀ n < 16, Nat.digitChar n ≠ '?' := by decide
  unfold jsonEscape
  repeat' split
  all_goals first | (subst_vars; rfl) | skip
  · rename_i hlow
    have hc : c ≠ '?' := by rintro rfl; exact absurd hlow (by decide)
    have hhigh := hdigit (c.toNat / 16) (by omega)
    have hrest := hdigit (c.toNat % 16) (by omega)
    simp [hc, hhigh, hrest]

/-- The JSON token of a text has the marks of the text. -/
@[simp]
theorem marks_jsonQuoted (s : String) : marks (jsonQuoted s) = marks s := by
  have hbody : ∀ cs : List Char, (cs.flatMap jsonEscape).count '?' = cs.count '?' := by
    intro cs
    induction cs with
    | nil => rfl
    | cons c cs ih => rw [List.flatMap_cons, List.count_append, ih, count_jsonEscape,
        ← List.count_append, List.singleton_append]
  simp [jsonQuoted, hbody, marks]

/-- A text that may be missing, and has no mark. -/
def Unmarked (text : Option String) : Prop := ∀ s ∈ text, marks s = 0

/-- An expression in the place of one placeholder, if it is there, has one mark. -/
def IsTemplate (term : Option String) : Prop := ∀ s ∈ term, marks s = 1

theorem Unmarked.unlessBlank {text : Option String} (h : Unmarked text) :
    Unmarked (Text.unlessBlank text) := by
  intro s hs
  cases text with
  | none => simp [Text.unlessBlank] at hs
  | some t =>
    by_cases hblank : isBlank t = true <;> simp_all [Text.unlessBlank, Unmarked]

theorem Unmarked.getD {text : Option String} (h : Unmarked text) {other : String}
    (hother : marks other = 0) : marks (text.getD other) = 0 := by
  cases text with
  | none => exact hother
  | some t => exact h t rfl

/-- What is written for one value has one mark, with an expression or without. -/
theorem IsTemplate.marks_getD {term : Option String} (h : IsTemplate term) :
    marks (term.getD "?") = 1 := by
  cases term with
  | none => rfl
  | some t => exact h t rfl

end Text

open Text

/-- No part of the target has a mark. -/
structure Target.Unmarked (t : Target) : Prop where
  catalog : Text.Unmarked t.catalog
  schema : Text.Unmarked t.schema
  table : marks t.table = 0

namespace Dialect

/-- The dialect brings no marks of its own into names. -/
structure Unmarked (d : Dialect) : Prop where
  left : d.leftQuote ≠ '?'
  right : d.rightQuote ≠ '?'
  separator : marks d.aliasSeparator = 0

theorem unmarked_backend (backend : Backend) : backend.dialect.Unmarked := by
  cases backend <;> exact ⟨by decide, by decide, by decide⟩

theorem count_doubleQuotes {right : Char} (hright : right ≠ '?') (cs : List Char) :
    (doubleQuotes right cs).count '?' = cs.count '?' := by
  induction cs with
  | nil => rfl
  | cons c cs ih =>
    rw [doubleQuotes]
    split
    · rw [List.count_cons_of_ne hright, List.count_cons, ih, List.count_cons]
    · rw [List.count_cons, ih, List.count_cons]

section Names
variable {d : Dialect} (hd : d.Unmarked) (quote : Bool)
include hd

/-- A name is written without marks if it has none. -/
theorem Unmarked.identifier {name : String} (h : marks name = 0) :
    marks (d.identifier quote name) = 0 := by
  unfold Dialect.identifier
  split
  · exact h
  · split
    · have hname : name.toList.count '?' = 0 := h
      rw [delimit, marks_ofList, List.count_cons_of_ne hd.left, List.count_append,
        count_doubleQuotes hd.right, hname, List.count_singleton]
      simp [hd.right]
    · exact h

theorem Unmarked.identifiers {names : List String} (h : ∀ n ∈ names, marks n = 0) :
    marks (d.identifiers quote names) = 0 := by
  refine marks_join rfl _ fun s hs => ?_
  obtain ⟨name, hname, rfl⟩ := List.mem_map.1 hs
  exact hd.identifier quote (h name hname)

omit hd in
/-- The parts of a target that are written have no marks. -/
theorem marks_targetParts (form : TargetForm) {t : Target} (ht : t.Unmarked) :
    ∀ part ∈ targetParts form t, marks part = 0 := by
  have hcatalog := ht.catalog.unlessBlank
  have hschema := ht.schema.unlessBlank
  have htable : Text.Unmarked (Text.unlessBlank (some t.table)) :=
    Unmarked.unlessBlank fun s hs => by cases hs; exact ht.table
  have hor : ∀ {a b : Option String}, Text.Unmarked a → Text.Unmarked b →
      Text.Unmarked (a.or b) := by
    intro a b ha hb
    cases a <;> assumption
  intro part hpart
  cases form with
  | dotted =>
    have hall : ∀ q ∈ [t.catalog, t.schema, some t.table], Text.Unmarked q := by
      simp only [List.forall_mem_cons]
      exact ⟨ht.catalog, ht.schema, fun s hs => by cases hs; exact ht.table, by simp⟩
    obtain ⟨q, hq, hpart⟩ := List.mem_filterMap.1 hpart
    exact (hall q hq).unlessBlank part hpart
  | owned =>
    rcases List.mem_append.1 hpart with h | h
    · exact hor hschema hcatalog part (by simpa using h)
    · simp_all [ht.table]
  | database =>
    rcases List.mem_cons.1 hpart with rfl | h
    · exact (hor hcatalog hschema).getD rfl
    · simp_all [ht.table]
  | index =>
    rcases List.mem_singleton.1 hpart with rfl
    exact (hor htable hcatalog).getD rfl

/-- A target is written without marks if it has none. -/
theorem Unmarked.targetText {t : Target} (ht : t.Unmarked) : marks (d.targetText quote t) = 0 := by
  refine marks_join rfl _ fun s hs => ?_
  obtain ⟨part, hpart, rfl⟩ := List.mem_map.1 hs
  exact hd.identifier quote (marks_targetParts d.targetForm ht part hpart)

end Names

end Dialect

/-- An endpoint has no marks if its target has none. -/
theorem Target.Unmarked.endpoint {t : Target} (ht : t.Unmarked) {layout : PathLayout}
    {operation : Operation} {e : Endpoint} (h : t.endpoint layout operation = .ok e) :
    marks e.text = 0 := by
  have hindex : marks t.indexName = 0 := Dialect.marks_targetParts .index ht _ (by
    simp [Dialect.targetParts, Target.indexName])
  have htype : marks (t.mappingType.getD "_doc") = 0 := ht.schema.unlessBlank.getD rfl
  unfold Target.endpoint Target.index at h
  split at h
  · exact absurd h (by simp [Except.map])
  · obtain rfl : _ = e := Except.ok.inj h
    have haction : marks "_search" = 0 ∧ marks "_update_by_query" = 0 ∧
        marks "_delete_by_query" = 0 ∧ marks "_doc" = 0 := ⟨rfl, rfl, rfl, rfl⟩
    have hparts : ∀ part ∈ layout.components operation t.indexName t.mappingType,
        marks part = 0 := by
      cases layout <;> cases operation <;> simp [PathLayout.components, hindex, htype, haction]
    have hpath : marks (layout.path operation t.indexName t.mappingType) = 0 := by
      refine marks_joinAll _ fun s hs => ?_
      obtain ⟨part, hpart, rfl⟩ := List.mem_map.1 hs
      simp [hparts part hpart, show marks "/" = 0 from rfl]
    simp [Endpoint.text, hpath, show marks "POST " = 0 from rfl]

end DataCommand
