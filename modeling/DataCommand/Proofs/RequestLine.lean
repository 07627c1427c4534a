import DataCommand.Dialect.Builtin
import DataCommand.Proofs.Rendering

/-!
Requests to a search server as the server takes them apart: a method, a path and a body with blanks
between them, and the components of the path between slashes. The index name is checked for all of
these separators, and the mapping type for none of them. So a request is taken for what was meant
exactly if the mapping type that it names has no separator in it.
-/

namespace DataCommand

/-! ### Separators -/

namespace Text

/-- What stands in front of the first place of a character, and what stands behind it. -/
def cutAt? (sep : Char) : List Char → Option (List Char × List Char)
  | [] => none
  | c :: cs => if c = sep then some ([], cs) else (cutAt? sep cs).map fun r => (c :: r.1, r.2)

theorem cutAt?_append_cons {sep : Char} {front : List Char} (h : sep ∉ front) (rest : List Char) :
    cutAt? sep (front ++ sep :: rest) = some (front, rest) := by
  induction front with
  | nil => simp [cutAt?]
  | cons c front ih =>
    obtain ⟨hc, hfront⟩ : c ≠ sep ∧ sep ∉ front := by simpa [eq_comm] using h
    rw [List.cons_append, cutAt?, if_neg hc, ih hfront]
    rfl

theorem not_mem_of_cutAt? {sep : Char} {cs front rest : List Char}
    (h : cutAt? sep cs = some (front, rest)) : sep ∉ front := by
  fun_induction cutAt? sep cs generalizing front with
  | case1 => cases h
  | case2 => simp_all
  | case3 c cs hc ih =>
    obtain ⟨r, hr, heq⟩ := Option.map_eq_some_iff.1 h
    obtain ⟨rfl, rfl⟩ := Prod.mk.inj heq
    simpa [Ne.symm hc] using ih hr

/-- Components behind a slash each are the pieces of the whole, if no slash is in them. -/
theorem splitAt_flatMap {sep : Char} : ∀ {front : List Char} {components : List (List Char)},
    sep ∉ front → (∀ c ∈ components, sep ∉ c) →
    splitAt sep (front ++ components.flatMap (sep :: ·)) = front :: components
  | front, [], hfront, _ => by simpa using splitAt_of_not_mem hfront
  | front, c :: components, hfront, h => by
    obtain ⟨hc, hcomponents⟩ := List.forall_mem_cons.1 h
    rw [List.flatMap_cons, List.cons_append, splitAt_append_cons hfront,
      splitAt_flatMap hc hcomponents]

end Text

/-- A request as its receiver takes it apart. -/
structure Received where
  method : String
  path : String
  body : String

/-- Takes a text apart at its first two blanks. -/
def Received.ofText? (text : String) : Option Received :=
  (Text.cutAt? ' ' text.toList).bind fun first =>
    (Text.cutAt? ' ' first.2).map fun second =>
      ⟨.ofList first.1, .ofList second.1, .ofList second.2⟩

/-- A path is received as it was sent exactly if there is no blank in it. -/
theorem Received.ofText?_eq_some_iff {method : String} (hmethod : ' ' ∉ method.toList)
    (path body : String) :
    ofText? (method ++ " " ++ path ++ " " ++ body) = some ⟨method, path, body⟩ ↔
      ' ' ∉ path.toList := by
  have htext : (method ++ " " ++ path ++ " " ++ body).toList =
      method.toList ++ ' ' :: (path.toList ++ ' ' :: body.toList) := by simp
  have hcut := Text.cutAt?_append_cons hmethod (path.toList ++ ' ' :: body.toList)
  rw [ofText?, htext, hcut, Option.bind_some]
  constructor
  · intro h
    obtain ⟨⟨front, rest⟩, hread, heq⟩ := Option.map_eq_some_iff.1 h
    obtain ⟨-, rfl, -⟩ := Received.mk.inj heq
    simpa using Text.not_mem_of_cutAt? hread
  · intro hpath
    simp [Text.cutAt?_append_cons hpath]

/-! ### Components of paths -/

namespace PathLayout

/-- The components that say which documents are meant. -/
def types (layout : PathLayout) (mappingType : Option String) : List String :=
  match layout with
  | .typed => [mappingType.getD "_doc"]
  | .typeless => []

/-- The components that say what is done with them. -/
def action (layout : PathLayout) (operation : Operation) : List String :=
  match operation, layout with
  | .select, _ => ["_search"]
  | .update, _ => ["_update_by_query"]
  | .delete, _ => ["_delete_by_query"]
  | .insert, .typed => []
  | .insert, .typeless => ["_doc"]

theorem components_eq (layout : PathLayout) (operation : Operation) (index : String)
    (mappingType : Option String) :
    layout.components operation index mappingType =
      index :: (layout.types mappingType ++ layout.action operation) := by
  cases layout <;> cases operation <;> rfl

/-- The components of a path are read off it exactly if there is no slash in them. -/
theorem pieces_path (layout : PathLayout) (operation : Operation) (index : String)
    (mappingType : Option String) :
    Text.pieces '/' (layout.path operation index mappingType) =
        "" :: layout.components operation index mappingType ↔
      ∀ c ∈ layout.components operation index mappingType, '/' ∉ c.toList := by
  have htext : (layout.path operation index mappingType).toList = [] ++
      ((layout.components operation index mappingType).map String.toList).flatMap ('/' :: ·) := by
    simp [path, String.toList_join, List.flatMap_map]
  constructor
  · intro h c hc
    have hpiece : c ∈ Text.pieces '/' (layout.path operation index mappingType) := by
      rw [h]
      exact List.mem_cons_of_mem _ hc
    obtain ⟨piece, hmem, rfl⟩ := List.mem_map.1 hpiece
    rw [String.toList_ofList]
    exact Text.not_mem_of_mem_splitAt '/' _ piece hmem
  · intro h
    rw [Text.pieces, htext, Text.splitAt_flatMap (by simp) (List.forall_mem_map.2 h)]
    simp [Function.comp_def]

/-- A path has a character in it, other than a slash, exactly if one of its components has. -/
theorem not_mem_path_iff {c : Char} (hc : c ≠ '/') (layout : PathLayout) (operation : Operation)
    (index : String) (mappingType : Option String) :
    c ∉ (layout.path operation index mappingType).toList ↔
      ∀ component ∈ layout.components operation index mappingType, c ∉ component.toList := by
  simp [path, String.toList_join, List.flatMap_map, hc]

/-- The actions are words without separators. -/
theorem not_mem_action {c : Char} (hc : c = ' ' ∨ c = '/') (layout : PathLayout)
    (operation : Operation) : ∀ word ∈ layout.action operation, c ∉ word.toList := by
  rcases hc with rfl | rfl <;> cases layout <;> cases operation <;> simp [action]

/-- If the index has no separator in it, no component has one but for the mapping type. -/
theorem forall_components_iff {c : Char} (hc : c = ' ' ∨ c = '/') {index : String}
    (hindex : c ∉ index.toList) (layout : PathLayout) (operation : Operation)
    (mappingType : Option String) :
    (∀ component ∈ layout.components operation index mappingType, c ∉ component.toList) ↔
      ∀ type ∈ layout.types mappingType, c ∉ type.toList := by
  have haction := layout.not_mem_action hc operation
  rw [components_eq, List.forall_mem_cons, List.forall_mem_append]
  exact ⟨fun h => h.2.1, fun h => ⟨hindex, h, haction⟩⟩

end PathLayout

/-- A valid index name has no separator in it. -/
theorem Target.not_mem_of_index {t : Target} {index : String} (h : t.index = .ok index) {c : Char}
    (hc : c ∈ forbiddenInIndex) : c ∉ index.toList := by
  unfold Target.index at h
  split at h
  · cases h
  · rename_i hvalid
    obtain rfl := Except.ok.inj h
    have hnone : t.indexName.toList.any forbiddenInIndex.contains = false := by
      unfold indexFault? at hvalid
      repeat' split at hvalid
      all_goals simp_all
    intro hmem
    have := List.any_eq_false.1 hnone c hmem
    simp [hc] at this

/-- A request that is written to a search server names the index and the endpoint of the command.
It is received with this path exactly if no mapping type with a blank is in it, and the path has the
index, the mapping type and the action as its components exactly if no mapping type with a slash is
in it. -/
theorem search_requests_framed_iff (b : SearchCommand) (request : Request) (d : Dialect)
    (quote : Bool) {s : Statement} (h : (b.render request d quote).result = .ok s) :
    ∃ index path, b.content.target.index = .ok index ∧
      b.endpoint request.operation = .ok ⟨"POST", path⟩ ∧
      let body := (SearchCommand.body d b.content request).json
      let types := b.layout.types b.content.target.mappingType
      s.text = "POST" ++ " " ++ path ++ " " ++ body ∧
      (Received.ofText? s.text = some ⟨"POST", path, body⟩ ↔ ∀ type ∈ types, ' ' ∉ type.toList) ∧
      (Text.pieces '/' path = "" :: index :: (types ++ b.layout.action request.operation) ↔
        ∀ type ∈ types, '/' ∉ type.toList) := by
  obtain ⟨-, e, hendpoint, rfl⟩ := SearchCommand.render_eq_ok_iff.1 h
  obtain ⟨index, hindex, rfl⟩ := Except.eq_of_map_eq_ok hendpoint
  have hblank : ' ' ∉ index.toList := Target.not_mem_of_index hindex (by decide)
  have hslash : '/' ∉ index.toList := Target.not_mem_of_index hindex (by decide)
  refine ⟨index, _, hindex, hendpoint, ?_⟩
  intro body types
  let path := b.layout.path request.operation index b.content.target.mappingType
  have htext : (((b.part request d ⟨"POST", path⟩).after b.content.args).text) =
      "POST" ++ " " ++ path ++ " " ++ body := by
    rw [Statement.text_after, SearchCommand.text_part, Endpoint.text]
  refine ⟨htext, ?_, ?_⟩
  · rw [htext, Received.ofText?_eq_some_iff (by decide), PathLayout.not_mem_path_iff (by decide),
      PathLayout.forall_components_iff (.inl rfl) hblank]
  · rw [← PathLayout.components_eq, PathLayout.pieces_path,
      PathLayout.forall_components_iff (.inr rfl) hslash]

/-- A query of an index under a mapping type with a slash and a blank in it. -/
def splitType : SearchCommand :=
  { content := { target := { table := "idx", schema := some "a/b c" } }, layout := .typed }

/-- The path of the query is not received as it was sent, and has more components than were meant.
-/
theorem search_requests_framed_iff_splitType :
    ∃ s path, (splitType.render .select .elastic false).result = .ok s ∧
      splitType.endpoint .select = .ok ⟨"POST", path⟩ ∧
      Received.ofText? s.text ≠
        some ⟨"POST", path, (SearchCommand.body .elastic splitType.content .select).json⟩ ∧
      Text.pieces '/' path ≠ ["", "idx", "a/b c", "_search"] := by
  have hrender : (splitType.render .select .elastic false).result = .ok _ := rfl
  obtain ⟨index, path, hindex, hendpoint, -, hreceived, hpieces⟩ :=
    search_requests_framed_iff splitType .select .elastic false hrender
  have hidx : splitType.content.target.index = .ok "idx" := rfl
  obtain rfl := Except.ok.inj (hidx.symm.trans hindex)
  have htype : "a/b c" ∈ splitType.layout.types splitType.content.target.mappingType := by decide
  refine ⟨_, path, hrender, hendpoint, fun h => ?_, fun h => ?_⟩
  · exact absurd (hreceived.1 h _ htype) (by decide)
  · exact absurd (hpieces.1 h _ htype) (by decide)

end DataCommand
