import DataCommand.Proofs.Mask.Basic
import DataCommand.Proofs.Spelling
import DataCommand.SearchCommand.Basic

/-!
Documents behind a mask. What a document looks like does not depend on what is in its holes, and the
filter and the query of some criteria have the same shape whatever the values in the criteria are.
-/

namespace DataCommand

namespace Document
variable {β : Type}

mutual

/-- The document with nothing in its holes. -/
def bare : Document β → Document Unit
  | .hole _ => .hole ()
  | .term text _ => .term text ()
  | .null => .null
  | .int n => .int n
  | .str text => .str text
  | .object entries => .object (bareEntries entries)
  | .array items => .array (bareItems items)

def bareEntries : List (String × Document β) → List (String × Document Unit)
  | [] => []
  | (key, d) :: rest => (key, bare d) :: bareEntries rest

def bareItems : List (Document β) → List (Document Unit)
  | [] => []
  | d :: rest => bare d :: bareItems rest

end

mutual

theorem spelled_bare (s : Spelling) : ∀ d : Document β, d.bare.spelled s = d.spelled s
  | .hole _ | .term _ _ | .null | .int _ | .str _ => rfl
  | .object entries => by simp only [bare, spelled, spelledEntries_bare s entries]
  | .array items => by simp only [bare, spelled, spelledItems_bare s items]

theorem spelledEntries_bare (s : Spelling) : ∀ entries : List (String × Document β),
    spelledEntries s (bareEntries entries) = spelledEntries s entries
  | [] => rfl
  | (key, d) :: rest => by
    simp only [bareEntries, spelledEntries, spelled_bare s d, spelledEntries_bare s rest]

theorem spelledItems_bare (s : Spelling) : ∀ items : List (Document β),
    spelledItems s (bareItems items) = spelledItems s items
  | [] => rfl
  | d :: rest => by
    simp only [bareItems, spelledItems, spelled_bare s d, spelledItems_bare s rest]

end

/-- What is in the holes does not show in compact JSON. -/
theorem json_bare (d : Document β) : d.bare.json = d.json := by
  rw [json_eq_spelled, json_eq_spelled, spelled_bare]

mutual

theorem length_labels_bare : ∀ d : Document β, d.bare.labels.length = d.labels.length
  | .hole _ | .term _ _ | .null | .int _ | .str _ => rfl
  | .object entries => by simp only [bare, labels, length_labels_bareEntries entries]
  | .array items => by simp only [bare, labels, length_labels_bareItems items]

theorem length_labels_bareEntries : ∀ entries : List (String × Document β),
    (labelsOfEntries (bareEntries entries)).length = (labelsOfEntries entries).length
  | [] => rfl
  | (key, d) :: rest => by
    simp only [bareEntries, labelsOfEntries, List.length_append, length_labels_bare d,
      length_labels_bareEntries rest]

theorem length_labels_bareItems : ∀ items : List (Document β),
    (labelsOfItems (bareItems items)).length = (labelsOfItems items).length
  | [] => rfl
  | d :: rest => by
    simp only [bareItems, labelsOfItems, List.length_append, length_labels_bare d,
      length_labels_bareItems rest]

end

/-- Documents that differ in their holes alone are the same behind the mask. -/
theorem masked_inSpelling (s : Spelling) {d e : Document Value} (h : d.bare = e.bare) :
    (d.inSpelling s).masked = (e.inSpelling s).masked := by
  refine (Statement.masked_eq_iff _ _).2 (Prod.ext ?_ ?_)
  · show d.spelled s = e.spelled s
    rw [← spelled_bare s d, ← spelled_bare s e, h]
  · show d.labels.length = e.labels.length
    rw [← length_labels_bare d, ← length_labels_bare e, h]

/-- The entry with nothing in its holes. -/
def bareEntry (e : String × Document β) : String × Document Unit := (e.1, e.2.bare)

@[simp]
theorem bare_object (entries : List (String × Document β)) :
    (object entries).bare = object (entries.map bareEntry) := by
  rw [bare]
  induction entries with
  | nil => rfl
  | cons e rest ih => simp_all [bareEntries, bareEntry]

@[simp]
theorem bare_array (items : List (Document β)) : (array items).bare = array (items.map bare) := by
  rw [bare]
  induction items with
  | nil => rfl
  | cons d rest ih => simp_all [bareItems]

@[simp]
theorem bare_null : (null : Document β).bare = null := rfl

@[simp]
theorem bare_str (text : String) : (str text : Document β).bare = str text := rfl

@[simp]
theorem bare_int (n : Int) : (int n : Document β).bare = int n := rfl

@[simp]
theorem bare_entry (key : String) (d : Document β) : (entry key d).bare = entry key d.bare := by
  simp [entry, bareEntry]

@[simp]
theorem bare_bind (label : β) (term : Option String) : (bind label term).bare = bind () term := by
  cases term <;> rfl

theorem distinctKeys_map_bareEntry (entries : List (String × Document β)) :
    distinctKeys (entries.map bareEntry) = distinctKeys entries := by
  induction entries with
  | nil => rfl
  | cons e rest ih =>
    obtain ⟨key, d⟩ := e
    have hall : (rest.map bareEntry).all (fun e => e.1 != key) = rest.all fun e => e.1 != key := by
      simp [List.all_map, bareEntry, Function.comp_def]
    rw [List.map_cons, bareEntry, distinctKeys, distinctKeys, hall, ih]

@[simp]
theorem bare_together (entries : List (String × Document β)) :
    (together entries).bare = together (entries.map bareEntry) := by
  unfold together
  rw [distinctKeys_map_bareEntry]
  split <;> simp [bareEntry, Function.comp_def]

@[simp]
theorem bare_mustNot (query : Document β) : (mustNot query).bare = mustNot query.bare := by
  simp [mustNot]

@[simp]
theorem bare_mustNotIf (negated : Bool) (query : Document β) :
    (mustNotIf negated query).bare = mustNotIf negated query.bare := by
  unfold mustNotIf
  split <;> simp

@[simp]
theorem bare_bindOver (v : Value) (term : Option String) :
    (bindOver v term).bare = bind () (Text.unlessBlank term) := bare_bind v _

end Document

/-! ### Criteria -/

namespace Condition

/-- An entry has the same shape behind the mask. -/
theorem bareEntry_masked (d : Dialect) (c : Condition) :
    Document.bareEntry (c.masked.entry d) = Document.bareEntry (c.entry d) := by
  obtain ⟨column, term, test⟩ := c
  cases test with
  | compare comparison operand valueTerm wildcards =>
    cases comparison <;>
      simp [masked, Test.masked, entry, comparisonEntry, field, Document.bareEntry]
  | within negated low high lowTerm highTerm =>
    cases negated <;> simp [masked, Test.masked, entry, field, Document.bareEntry]
  | oneOf negated values valueTerm =>
    simp [masked, Test.masked, entry, field, nulls, Document.bareEntry, Function.comp_def]

/-- A query has the same shape behind the mask. -/
theorem bare_query_masked (d : Dialect) (c : Condition) :
    (c.masked.query d).bare = (c.query d).bare := by
  obtain ⟨column, term, test⟩ := c
  cases test with
  | compare comparison operand valueTerm wildcards =>
    cases comparison <;>
      simp [masked, Test.masked, query, comparisonQuery, field, Document.onField, Document.range,
        Document.fieldExists, Document.bareEntry]
  | within negated low high lowTerm highTerm =>
    simp [masked, Test.masked, query, field, Document.onField, Document.range, Document.bareEntry]
  | oneOf negated values valueTerm =>
    simp [masked, Test.masked, query, field, nulls, Document.onField, Function.comp_def]

end Condition

namespace Criterion

/-- The criterion with its values masked. -/
def masked (c : Criterion) : Criterion := { c with condition := c.condition.masked }

theorem bareEntry_masked (d : Dialect) (c : Criterion) :
    Document.bareEntry (c.masked.entry d) = Document.bareEntry (c.entry d) := by
  have h := Condition.bareEntry_masked d c.condition
  simp only [Document.bareEntry, Prod.mk.injEq] at h
  obtain ⟨hkey, hbare⟩ := h
  cases hnegated : c.connective.negated <;>
    simp [entry, masked, hnegated, Document.bareEntry, hkey, hbare]

theorem bare_query_masked (d : Dialect) (c : Criterion) :
    (c.masked.query d).bare = (c.query d).bare := by
  simp [query, masked, Condition.bare_query_masked]

end Criterion

/-- Criteria are cut alike behind the mask. -/
theorem alternatives_masked : ∀ criteria : List Criterion,
    alternatives (criteria.map Criterion.masked) =
      (alternatives criteria).map (List.map Criterion.masked)
  | [] => rfl
  | [_] => rfl
  | c :: e :: rest => by
    have ih := alternatives_masked (e :: rest)
    rw [List.map_cons] at ih
    rw [List.map_cons, List.map_cons, alternatives, alternatives, ih]
    cases alternatives (e :: rest) with
    | nil => rfl
    | cons run runs =>
      have hconnective : e.masked.connective = e.connective := rfl
      simp only [List.map_cons, hconnective]
      split <;> rfl

/-- The filter of some criteria has the same shape behind the mask. -/
theorem bare_filterOf_masked (d : Dialect) (criteria : List Criterion) :
    (filterOf d (criteria.map Criterion.masked)).bare = (filterOf d criteria).bare := by
  have hrun : ∀ run : List Criterion,
      (Document.together ((run.map Criterion.masked).map (Criterion.entry d))).bare =
        (Document.together (run.map (Criterion.entry d))).bare := by
    intro run
    simp [Function.comp_def, Criterion.bareEntry_masked]
  unfold filterOf
  rw [alternatives_masked]
  cases alternatives criteria with
  | nil => rfl
  | cons run runs =>
    cases runs with
    | nil => exact hrun run
    | cons run' runs => simp_all [Function.comp_def]

/-- The query of some criteria has the same shape behind the mask. -/
theorem bare_queryOf_masked (d : Dialect) (criteria : List Criterion) :
    (queryOf d (criteria.map Criterion.masked)).bare = (queryOf d criteria).bare := by
  have hrun : ∀ run : List Criterion,
      (queryOfAll d (run.map Criterion.masked)).bare = (queryOfAll d run).bare := by
    intro run
    simp [queryOfAll, Function.comp_def, Criterion.bare_query_masked]
  unfold queryOf
  rw [alternatives_masked]
  cases alternatives criteria with
  | nil => rfl
  | cons run runs =>
    cases runs with
    | nil => exact hrun run
    | cons run' runs => simp [hrun, Function.comp_def, Document.bareEntry]

namespace Assignment

/-- Assignments as an object have the same shape behind the mask. -/
theorem bare_object_masked (assignments : List Assignment) :
    (object (assignments.map (masked true))).bare = (object assignments).bare := by
  have hdocument : ∀ a : Assignment, (a.masked true).document.bare = a.document.bare := by
    rintro ⟨column, value, term⟩
    cases term with
    | none =>
      cases hnull : value.isNull <;>
        simp [document, masked, isBareNull, Value.isNull_masked, hnull]
    | some text => simp [document, masked, isBareNull]
  have hcolumn : ∀ a : Assignment, (a.masked true).column = a.column := fun _ => rfl
  simp [object, Function.comp_def, Document.bareEntry, hdocument, hcolumn]

end Assignment

end DataCommand
