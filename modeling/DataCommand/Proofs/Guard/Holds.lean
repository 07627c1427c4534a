import DataCommand.Proofs.Criteria

/-!
What a document holds. However criteria are put together, side by side, under `$and` and `$or`, or
in a query with alternatives, each of them is found somewhere in the filter.
-/

namespace DataCommand

namespace Document
variable {β : Type}

/-- The second document is a part of the first one: itself, an entry of an object by itself, or a
part of a value or of an item. -/
inductive Holds : Document β → Document β → Prop where
  | self (d : Document β) : Holds d d
  | entry {entries : List (String × Document β)} {e : String × Document β} (he : e ∈ entries) :
      Holds (.object entries) (.entry e.1 e.2)
  | value {entries : List (String × Document β)} {e : String × Document β} {part : Document β}
      (he : e ∈ entries) (h : Holds e.2 part) : Holds (.object entries) part
  | item {items : List (Document β)} {d part : Document β} (hd : d ∈ items) (h : Holds d part) :
      Holds (.array items) part

theorem Holds.under {d part : Document β} (h : Holds d part) (key : String) :
    Holds (.entry key d) part := .value (List.mem_singleton_self (key, d)) h

theorem holds_together {entries : List (String × Document β)} {e : String × Document β}
    (he : e ∈ entries) : Holds (together entries) (.entry e.1 e.2) := by
  unfold together
  split
  · exact .entry he
  · have hitem := List.mem_map_of_mem (f := fun e => Document.entry e.1 e.2) he
    exact (Holds.item hitem (.self _)).under "$and"

end Document

section Criteria
variable {criteria : List Criterion} {c : Criterion} (d : Dialect)

/-- A filter holds every criterion as an entry. -/
theorem holds_filterOf (hc : c ∈ criteria) :
    (filterOf d criteria).Holds (.entry (c.entry d).1 (c.entry d).2) := by
  obtain ⟨run, hrun, hc⟩ := exists_mem_alternatives hc
  have hpart := Document.holds_together (List.mem_map_of_mem (f := Criterion.entry d) hc)
  have hmem :=
    List.mem_map_of_mem (f := fun run => Document.together (run.map (Criterion.entry d))) hrun
  unfold filterOf
  split
  · rename_i hruns
    simp [hruns] at hmem
  · rename_i part hruns
    rw [hruns, List.mem_singleton] at hmem
    exact hmem ▸ hpart
  · exact (Document.Holds.item hmem hpart).under "$or"

/-- A query holds the query of every criterion. -/
theorem holds_queryOf (hc : c ∈ criteria) : (queryOf d criteria).Holds (c.query d) := by
  obtain ⟨run, hrun, hc⟩ := exists_mem_alternatives hc
  have hitem := Document.Holds.item (List.mem_map_of_mem (f := Criterion.query d) hc) (.self _)
  have hpart : (queryOfAll d run).Holds (c.query d) := (hitem.under "must").under "bool"
  have hmem := List.mem_map_of_mem (f := queryOfAll d) hrun
  unfold queryOf
  split
  · rename_i hruns
    simp [hruns] at hmem
  · rename_i part hruns
    rw [hruns, List.mem_singleton] at hmem
    exact hmem ▸ hpart
  · exact (Document.Holds.value List.mem_cons_self (.item hmem hpart)).under "bool"

end Criteria

end DataCommand
