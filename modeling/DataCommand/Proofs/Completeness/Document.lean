import DataCommand.Proofs.Criteria
import DataCommand.Proofs.Placeholder.Criterion

/-!
What documents hold. The values of a document are those of its operands, and its lists are found at
every depth; the lists that filters and queries make of criteria have something in them.
-/

namespace DataCommand

namespace Document

mutual

/-- The values of a document are those of its operands. -/
theorem labels_eq_args : ∀ d : Document Value, d.labels = d.operands.flatMap Statement.args
  | .object entries => by rw [labels, operands, labelsOfEntries_eq_args entries]
  | .array items => by rw [labels, operands, labelsOfItems_eq_args items]
  | .hole _ | .term _ _ | .null | .int _ | .str _ => rfl

theorem labelsOfEntries_eq_args : ∀ entries : List (String × Document Value),
    labelsOfEntries entries = (operandsOfEntries entries).flatMap Statement.args
  | [] => rfl
  | (_, d) :: rest => by
    rw [labelsOfEntries, operandsOfEntries, List.flatMap_append, labels_eq_args d,
      labelsOfEntries_eq_args rest]

theorem labelsOfItems_eq_args : ∀ items : List (Document Value),
    labelsOfItems items = (operandsOfItems items).flatMap Statement.args
  | [] => rfl
  | d :: rest => by
    rw [labelsOfItems, operandsOfItems, List.flatMap_append, labels_eq_args d,
      labelsOfItems_eq_args rest]

end

variable {β : Type}

mutual

/-- The lists in a document, at every depth. -/
def arrays : Document β → List (List (Document β))
  | .object entries => arraysOfEntries entries
  | .array items => items :: arraysOfItems items
  | .hole _ | .term _ _ | .null | .int _ | .str _ => []

def arraysOfEntries : List (String × Document β) → List (List (Document β))
  | [] => []
  | (_, d) :: rest => arrays d ++ arraysOfEntries rest

def arraysOfItems : List (Document β) → List (List (Document β))
  | [] => []
  | d :: rest => arrays d ++ arraysOfItems rest

end

/-- No list in the document is empty. -/
def Filled (d : Document β) : Prop := ∀ items ∈ d.arrays, items ≠ []

theorem arraysOfEntries_eq_flatMap (entries : List (String × Document β)) :
    arraysOfEntries entries = entries.flatMap fun e => e.2.arrays := by
  induction entries with
  | nil => rfl
  | cons e rest ih => simp [arraysOfEntries, ih]

theorem arraysOfItems_eq_flatMap (items : List (Document β)) :
    arraysOfItems items = items.flatMap arrays := by
  induction items with
  | nil => rfl
  | cons d rest ih => simp [arraysOfItems, ih]

@[simp]
theorem filled_object (entries : List (String × Document β)) :
    (object entries).Filled ↔ ∀ e ∈ entries, e.2.Filled := by
  simp only [Filled, arrays, arraysOfEntries_eq_flatMap, List.forall_mem_flatMap]

@[simp]
theorem filled_array (items : List (Document β)) :
    (array items).Filled ↔ items ≠ [] ∧ ∀ d ∈ items, d.Filled := by
  simp only [Filled, arrays, arraysOfItems_eq_flatMap, List.forall_mem_cons,
    List.forall_mem_flatMap]

@[simp]
theorem filled_entry (key : String) (d : Document β) : (entry key d).Filled ↔ d.Filled := by
  simp [entry]

@[simp]
theorem filled_null : (null : Document β).Filled := by simp [Filled, arrays]

@[simp]
theorem filled_int (n : Int) : (int n : Document β).Filled := by simp [Filled, arrays]

@[simp]
theorem filled_str (text : String) : (str text : Document β).Filled := by simp [Filled, arrays]

@[simp]
theorem filled_bindOver (v : Value) (term : Option String) : (bindOver v term).Filled := by
  unfold bindOver
  cases Text.unlessBlank term <;> simp [bind, Filled, arrays]

theorem filled_together {entries : List (String × Document β)} (hne : entries ≠ [])
    (h : ∀ e ∈ entries, e.2.Filled) : (together entries).Filled := by
  unfold together
  split
  · exact (filled_object entries).2 h
  · rw [filled_entry, filled_array]
    refine ⟨by simpa using hne, List.forall_mem_map.2 fun e he => ?_⟩
    exact (filled_entry e.1 e.2).2 (h e he)

@[simp]
theorem filled_mustNot (query : Document β) : (mustNot query).Filled ↔ query.Filled := by
  simp [mustNot]

@[simp]
theorem filled_mustNotIf (negated : Bool) (query : Document β) :
    (mustNotIf negated query).Filled ↔ query.Filled := by
  cases negated <;> simp [mustNotIf]

@[simp]
theorem filled_onField (query field : String) (value : Document β) :
    (onField query field value).Filled ↔ value.Filled := by simp [onField]

@[simp]
theorem filled_fieldExists (field : String) : (fieldExists field : Document β).Filled := by
  simp [fieldExists]

end Document

/-! ### Filters and queries -/

section Criteria
variable {criteria : List Criterion} (d : Dialect)

theorem filled_filterOf (h : ∀ c ∈ criteria, (c.condition.entry d).2.Filled) :
    (filterOf d criteria).Filled := by
  have hruns : ∀ part ∈ (alternatives criteria).map fun run =>
      Document.together (run.map (Criterion.entry d)), part.Filled := by
    refine List.forall_mem_map.2 fun run hrun => ?_
    refine Document.filled_together (by simpa using ne_nil_of_mem_alternatives _ _ hrun) ?_
    refine List.forall_mem_map.2 fun c hc => ?_
    have hentry := h c (mem_of_mem_alternatives hrun hc)
    unfold Criterion.entry
    split
    · simpa using hentry
    · exact hentry
  unfold filterOf
  split
  · simp
  · rename_i run hrun
    exact hruns run (by simp [hrun])
  · rename_i hne _
    rw [Document.filled_entry, Document.filled_array]
    exact ⟨hne, hruns⟩

theorem filled_queryOf (h : ∀ c ∈ criteria, (c.condition.query d).Filled) :
    (queryOf d criteria).Filled := by
  have hruns : ∀ part ∈ (alternatives criteria).map (queryOfAll d), part.Filled := by
    refine List.forall_mem_map.2 fun run hrun => ?_
    simp only [queryOfAll, Document.filled_entry, Document.filled_array, List.forall_mem_map]
    refine ⟨by simpa using ne_nil_of_mem_alternatives _ _ hrun, fun c hc => ?_⟩
    simpa [Criterion.query] using h c (mem_of_mem_alternatives hrun hc)
  unfold queryOf
  split
  · simp
  · rename_i run hrun
    exact hruns run (by simp [hrun])
  · rename_i hne _
    simp only [Document.filled_entry, Document.filled_object, List.forall_mem_cons,
      Document.filled_array]
    exact ⟨⟨hne, hruns⟩, Document.filled_int 1, by simp⟩

end Criteria

end DataCommand
