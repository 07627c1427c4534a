import DataCommand.Proofs.Meaning.Selection
import DataCommand.SearchCommand.Query

/-!
Keys of objects. A reader of a document keeps one entry of each key. It finds everything that was
written exactly if no object of the document, at whatever depth, names a key twice. Filters and
queries are such documents, whatever the criteria.
-/

namespace DataCommand

section LastOfEachKey
variable {γ : Type}

theorem lastOfEachKey_sublist : ∀ entries : List (String × γ),
    (lastOfEachKey entries).Sublist entries
  | [] => .slnil
  | e :: rest => by
    have ih := lastOfEachKey_sublist rest
    unfold lastOfEachKey
    split
    · exact ih.cons e
    · exact ih.cons_cons e

/-- All entries count exactly if no key is repeated. -/
theorem lastOfEachKey_eq_self_iff : ∀ entries : List (String × γ),
    lastOfEachKey entries = entries ↔ (entries.map Prod.fst).Nodup
  | [] => by simp [lastOfEachKey]
  | e :: rest => by
    have ih := lastOfEachKey_eq_self_iff rest
    have hmem : (rest.any fun later => later.1 == e.1) = true ↔ e.1 ∈ rest.map Prod.fst := by
      simp
    rw [lastOfEachKey, List.map_cons, List.nodup_cons]
    split
    · rename_i hlater
      refine ⟨fun heq => ?_, fun hnodup => absurd (hmem.1 hlater) hnodup.1⟩
      have hlength := (lastOfEachKey_sublist rest).length_le
      rw [heq, List.length_cons] at hlength
      omega
    · rename_i hlater
      rw [List.cons.injEq, ih, ← hmem]
      simp [hlater]

end LastOfEachKey

namespace Document
variable {β : Type}

mutual

/-- The objects of a document, at every depth, each as its entries. -/
def objects : Document β → List (List (String × Document β))
  | .object entries => entries :: objectsOfEntries entries
  | .array items => objectsOfItems items
  | .hole _ | .term _ _ | .null | .int _ | .str _ => []

def objectsOfEntries : List (String × Document β) → List (List (String × Document β))
  | [] => []
  | (_, d) :: rest => objects d ++ objectsOfEntries rest

def objectsOfItems : List (Document β) → List (List (String × Document β))
  | [] => []
  | d :: rest => objects d ++ objectsOfItems rest

end

/-- No object of the document names a key twice. -/
def NamesOnce (d : Document β) : Prop := ∀ entries ∈ d.objects, (entries.map Prod.fst).Nodup

mutual

/-- What a reader finds in a document, if the last entry of a key is the one that counts. -/
def read : Document β → Document β
  | .object entries => .object (lastOfEachKey (readEntries entries))
  | .array items => .array (readItems items)
  | .hole label => .hole label
  | .term text label => .term text label
  | .null => .null
  | .int n => .int n
  | .str text => .str text

def readEntries : List (String × Document β) → List (String × Document β)
  | [] => []
  | (key, d) :: rest => (key, read d) :: readEntries rest

def readItems : List (Document β) → List (Document β)
  | [] => []
  | d :: rest => read d :: readItems rest

end

theorem objectsOfEntries_eq_flatMap (entries : List (String × Document β)) :
    objectsOfEntries entries = entries.flatMap fun e => e.2.objects := by
  induction entries with
  | nil => rfl
  | cons e rest ih => simp [objectsOfEntries, ih]

theorem objectsOfItems_eq_flatMap (items : List (Document β)) :
    objectsOfItems items = items.flatMap objects := by
  induction items with
  | nil => rfl
  | cons d rest ih => simp [objectsOfItems, ih]

@[simp]
theorem namesOnce_object (entries : List (String × Document β)) :
    (object entries).NamesOnce ↔
      (entries.map Prod.fst).Nodup ∧ ∀ e ∈ entries, e.2.NamesOnce := by
  simp only [NamesOnce, objects, objectsOfEntries_eq_flatMap, List.forall_mem_cons,
    List.forall_mem_flatMap]

@[simp]
theorem namesOnce_array (items : List (Document β)) :
    (array items).NamesOnce ↔ ∀ d ∈ items, d.NamesOnce := by
  simp only [NamesOnce, objects, objectsOfItems_eq_flatMap, List.forall_mem_flatMap]

@[simp]
theorem namesOnce_entry (key : String) (d : Document β) :
    (entry key d).NamesOnce ↔ d.NamesOnce := by simp [entry]

@[simp]
theorem namesOnce_null : (null : Document β).NamesOnce := by simp [NamesOnce, objects]

@[simp]
theorem namesOnce_int (n : Int) : (int n : Document β).NamesOnce := by simp [NamesOnce, objects]

@[simp]
theorem namesOnce_str (text : String) : (str text : Document β).NamesOnce := by
  simp [NamesOnce, objects]

@[simp]
theorem namesOnce_bind (label : β) (term : Option String) : (bind label term).NamesOnce := by
  cases term <;> simp [NamesOnce, bind, objects]

theorem length_readEntries (entries : List (String × Document β)) :
    (readEntries entries).length = entries.length := by
  induction entries with
  | nil => rfl
  | cons e rest ih => exact congrArg (· + 1) ih

mutual

/-- A reader finds everything exactly if no key is named twice. -/
theorem read_eq_self_iff : ∀ d : Document β, d.read = d ↔ d.NamesOnce
  | .object entries => by
    rw [read, namesOnce_object, object.injEq]
    constructor
    · intro heq
      -- nothing is left out, since as much comes back as went in
      have hall : lastOfEachKey (readEntries entries) = readEntries entries :=
        (lastOfEachKey_sublist _).eq_of_length (by rw [heq, length_readEntries])
      have hread : readEntries entries = entries := hall.symm.trans heq
      rw [hread] at hall
      exact ⟨(lastOfEachKey_eq_self_iff entries).1 hall, (readEntries_eq_self_iff entries).1 hread⟩
    · rintro ⟨hkeys, hvalues⟩
      rw [(readEntries_eq_self_iff entries).2 hvalues]
      exact (lastOfEachKey_eq_self_iff entries).2 hkeys
  | .array items => by
    rw [read, namesOnce_array, array.injEq, readItems_eq_self_iff items]
  | .hole _ | .term _ _ | .null | .int _ | .str _ => by simp [read, NamesOnce, objects]

theorem readEntries_eq_self_iff : ∀ entries : List (String × Document β),
    readEntries entries = entries ↔ ∀ e ∈ entries, e.2.NamesOnce
  | [] => by simp [readEntries]
  | (key, d) :: rest => by
    rw [readEntries, List.cons.injEq, Prod.mk.injEq, read_eq_self_iff d,
      readEntries_eq_self_iff rest, List.forall_mem_cons]
    simp

theorem readItems_eq_self_iff : ∀ items : List (Document β),
    readItems items = items ↔ ∀ d ∈ items, d.NamesOnce
  | [] => by simp [readItems]
  | d :: rest => by
    rw [readItems, List.cons.injEq, read_eq_self_iff d, readItems_eq_self_iff rest,
      List.forall_mem_cons]

end

theorem nodup_of_distinctKeys : ∀ {entries : List (String × Document β)},
    distinctKeys entries = true → (entries.map Prod.fst).Nodup
  | [], _ => by simp
  | (key, _) :: rest, h => by
    obtain ⟨hkey, hrest⟩ := Bool.and_eq_true_iff.1 h
    rw [List.map_cons, List.nodup_cons]
    refine ⟨fun hmem => ?_, nodup_of_distinctKeys hrest⟩
    obtain ⟨e, he, rfl⟩ := List.mem_map.1 hmem
    simpa using List.all_eq_true.1 hkey e he

/-- Entries that are put together repeat no key, whatever their keys are. -/
theorem namesOnce_together {entries : List (String × Document β)}
    (h : ∀ e ∈ entries, e.2.NamesOnce) : (together entries).NamesOnce := by
  unfold together
  split
  · rename_i hdistinct
    exact (namesOnce_object entries).2 ⟨nodup_of_distinctKeys hdistinct, h⟩
  · rw [namesOnce_entry, namesOnce_array]
    exact List.forall_mem_map.2 fun e he => (namesOnce_entry e.1 e.2).2 (h e he)

@[simp]
theorem namesOnce_bindOver (v : Value) (term : Option String) : (bindOver v term).NamesOnce :=
  namesOnce_bind v _

@[simp]
theorem namesOnce_mustNot (query : Document β) : (mustNot query).NamesOnce ↔ query.NamesOnce := by
  simp [mustNot]

@[simp]
theorem namesOnce_mustNotIf (negated : Bool) (query : Document β) :
    (mustNotIf negated query).NamesOnce ↔ query.NamesOnce := by
  cases negated <;> simp [mustNotIf]

@[simp]
theorem namesOnce_onField (query field : String) (value : Document β) :
    (onField query field value).NamesOnce ↔ value.NamesOnce := by simp [onField]

@[simp]
theorem namesOnce_fieldExists (field : String) : (fieldExists field : Document β).NamesOnce := by
  simp [fieldExists]

end Document

/-! ### Filters and queries -/

section Criteria
variable (d : Dialect)

theorem Condition.namesOnce_entry (c : Condition) : (c.entry d).2.NamesOnce := by
  unfold entry
  cases c.test with
  | compare comparison => cases comparison <;> simp [comparisonEntry]
  | within negated => cases negated <;> simp
  | oneOf negated values term => simp

theorem Condition.namesOnce_query (c : Condition) : (c.query d).NamesOnce := by
  unfold query
  cases c.test with
  | compare comparison => cases comparison <;> simp [comparisonQuery, Document.range]
  | within negated => simp [Document.range]
  | oneOf negated values term => simp

theorem Criterion.namesOnce_entry (c : Criterion) : (c.entry d).2.NamesOnce := by
  unfold entry
  split
  · simpa using c.condition.namesOnce_entry d
  · exact c.condition.namesOnce_entry d

theorem namesOnce_filterOf (criteria : List Criterion) : (filterOf d criteria).NamesOnce := by
  have hruns : ∀ run ∈ (alternatives criteria).map fun run =>
      Document.together (run.map (Criterion.entry d)), run.NamesOnce := by
    refine List.forall_mem_map.2 fun run _ => Document.namesOnce_together ?_
    exact List.forall_mem_map.2 fun c _ => c.namesOnce_entry d
  unfold filterOf
  split
  · simp
  · rename_i run hrun
    exact hruns run (by simp [hrun])
  · simpa using hruns

theorem namesOnce_queryOfAll (run : List Criterion) : (queryOfAll d run).NamesOnce := by
  simp [queryOfAll, Criterion.query, Condition.namesOnce_query]

theorem namesOnce_queryOf (criteria : List Criterion) : (queryOf d criteria).NamesOnce := by
  have hruns : ∀ run ∈ (alternatives criteria).map (queryOfAll d), run.NamesOnce :=
    List.forall_mem_map.2 fun run _ => namesOnce_queryOfAll d run
  unfold queryOf
  split
  · simp
  · rename_i run hrun
    exact hruns run (by simp [hrun])
  · simpa using hruns

end Criteria

end DataCommand
