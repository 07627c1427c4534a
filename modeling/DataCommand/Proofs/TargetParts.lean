import DataCommand.Dialect.Basic
import DataCommand.SearchCommand.Endpoint
import Mathlib.Tactic.Tauto

/-!
The parts of a target that a dialect writes. They are names that the target gives, or the default
database. If the target has a table none of them is blank, and the table comes last.
-/

namespace DataCommand

namespace Text

/-- The first of two texts that is not blank is one of them. -/
theorem exists_of_unlessBlank_or {x y : Option String} {name : String}
    (h : (unlessBlank x).or (unlessBlank y) = some name) :
    ∃ text ∈ [x, y], unlessBlank text = some name := by
  rcases Option.or_eq_some_iff.1 h with hx | ⟨-, hy⟩
  · exact ⟨x, by simp, hx⟩
  · exact ⟨y, by simp, hy⟩

end Text

namespace Target
variable {t : Target}

/-- The names that a target gives, outermost first. -/
def names (t : Target) : List String := [t.catalog, t.schema, some t.table].filterMap id

/-- A target that is accepted has a table or a catalog. -/
def IsNamed (t : Target) : Prop :=
  Text.isBlank t.table = false ∨ (Text.unlessBlank t.catalog).isSome = true

theorem mem_names {part : Option String} {name : String}
    (hpart : part ∈ [t.catalog, t.schema, some t.table]) (h : Text.unlessBlank part = some name) :
    name ∈ t.names :=
  List.mem_filterMap.2 ⟨part, hpart, (Text.unlessBlank_eq_some_iff.1 h).1⟩

theorem table_mem_names (t : Target) : t.table ∈ t.names := by simp [names]

/-- The table stands in for the name of the index, or else the catalog. -/
theorem IsNamed.indexName_cases (ht : t.IsNamed) :
    (Text.isBlank t.table = false ∧ t.indexName = t.table) ∨
      (Text.isBlank t.table = true ∧ Text.unlessBlank t.catalog = some t.indexName) := by
  cases htable : Text.isBlank t.table with
  | false => exact .inl ⟨rfl, by simp [indexName, Text.unlessBlank_some, htable]⟩
  | true =>
    obtain ⟨catalog, hcatalog⟩ := Option.isSome_iff_exists.1 (ht.resolve_left (by simp [htable]))
    exact .inr ⟨rfl, by simp [indexName, Text.unlessBlank_some, htable, hcatalog]⟩

end Target

namespace Dialect
variable {t : Target} (ht : t.IsNamed)
include ht

/-- The names that are written are given by the target, but for the default database. -/
theorem mem_names_of_mem_targetParts {form : TargetForm} {name : String}
    (h : name ∈ targetParts form t) : name ∈ t.names ∨ form = .database ∧ name = "db" := by
  cases form with
  | dotted =>
    obtain ⟨part, hpart, hname⟩ := List.mem_filterMap.1 h
    exact .inl (Target.mem_names hpart hname)
  | owned =>
    left
    rcases List.mem_append.1 h with howner | hname
    · obtain ⟨part, hpart, hname⟩ := Text.exists_of_unlessBlank_or (Option.mem_toList.1 howner)
      exact Target.mem_names (by simp at hpart ⊢; tauto) hname
    · exact List.mem_singleton.1 hname ▸ t.table_mem_names
  | database =>
    rcases List.mem_cons.1 h with rfl | hname
    · cases hdatabase : (Text.unlessBlank t.catalog).or (Text.unlessBlank t.schema) with
      | none => exact .inr ⟨rfl, rfl⟩
      | some database =>
        obtain ⟨part, hpart, hname⟩ := Text.exists_of_unlessBlank_or hdatabase
        exact .inl (Target.mem_names (by simp at hpart ⊢; tauto) hname)
    · exact .inl (List.mem_singleton.1 hname ▸ t.table_mem_names)
  | index =>
    obtain rfl : name = t.indexName := List.mem_singleton.1 h
    rcases ht.indexName_cases with ⟨-, hindex⟩ | ⟨-, hindex⟩
    · exact .inl (hindex ▸ t.table_mem_names)
    · exact .inl (Target.mem_names (by simp) hindex)

/-- A table that is not there leaves a blank name behind, unless the form leaves it out. -/
theorem forall_targetParts_iff (form : TargetForm) :
    (∀ name ∈ targetParts form t, Text.isBlank name = false) ↔
      Text.isBlank t.table = false ∨ form = .dotted ∨ form = .index := by
  have hqualifier : ∀ {x y : Option String} {name : String},
      (Text.unlessBlank x).or (Text.unlessBlank y) = some name → Text.isBlank name = false := by
    intro x y name h
    obtain ⟨part, -, hname⟩ := Text.exists_of_unlessBlank_or h
    exact (Text.unlessBlank_eq_some_iff.1 hname).2
  cases form with
  | dotted =>
    simp only [true_or, or_true, iff_true]
    intro name h
    obtain ⟨part, -, hname⟩ := List.mem_filterMap.1 h
    exact (Text.unlessBlank_eq_some_iff.1 hname).2
  | owned =>
    simp only [targetParts, List.forall_mem_append, List.forall_mem_singleton, reduceCtorEq,
      or_false]
    exact ⟨And.right, fun h => ⟨fun name hname => hqualifier (Option.mem_toList.1 hname), h⟩⟩
  | database =>
    simp only [targetParts, List.forall_mem_cons, reduceCtorEq, or_false]
    refine ⟨fun h => h.2.1, fun h => ⟨?_, h, by simp⟩⟩
    cases hdatabase : (Text.unlessBlank t.catalog).or (Text.unlessBlank t.schema) with
    | none => rfl
    | some database => exact hqualifier hdatabase
  | index =>
    simp only [or_true, iff_true]
    intro name h
    obtain rfl : name = t.indexName := List.mem_singleton.1 h
    rcases ht.indexName_cases with ⟨htable, hindex⟩ | ⟨-, hindex⟩
    · rw [hindex, htable]
    · exact (Text.unlessBlank_eq_some_iff.1 hindex).2

/-- The table comes last if there is one. A catalog comes last in its place if it is what is left of
the target, or if the schema has the same name. -/
theorem getLast?_targetParts_iff (form : TargetForm) :
    (targetParts form t).getLast? = some t.indexName ↔
      Text.isBlank t.table = false ∨ form = .index ∨
        form = .dotted ∧ (Text.unlessBlank t.schema = none ∨
          Text.unlessBlank t.schema = Text.unlessBlank t.catalog) := by
  rcases ht.indexName_cases with ⟨htable, hindex⟩ | ⟨htable, hindex⟩
  · have hlast : (targetParts form t).getLast? = some t.table := by
      cases form with
      | dotted =>
        cases hc : Text.unlessBlank t.catalog <;> cases hs : Text.unlessBlank t.schema <;>
          simp [targetParts, hc, hs, Text.unlessBlank_some, htable]
      | owned => simp [targetParts]
      | database => simp [targetParts]
      | index => simp [targetParts, Text.unlessBlank_some, htable]
    simp [hlast, hindex, htable]
  · -- a blank table is not the catalog
    have hother : t.table ≠ t.indexName := by
      intro heq
      have := (Text.unlessBlank_eq_some_iff.1 hindex).2
      simp [← heq, htable] at this
    cases form with
    | dotted =>
      cases hs : Text.unlessBlank t.schema <;>
        simp [targetParts, hindex, hs, Text.unlessBlank_some, htable]
    | owned => simp [targetParts, htable, hother]
    | database => simp [targetParts, htable, hother]
    | index => simp [targetParts, Target.indexName]

end Dialect

end DataCommand
