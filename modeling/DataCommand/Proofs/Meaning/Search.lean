import DataCommand.Dialect.Builtin
import DataCommand.Proofs.Meaning.Criteria
import DataCommand.Proofs.Meaning.Resolve
import DataCommand.Proofs.Rendering

/-!
The documents that a query finds. A query is an object with one key. Under `bool` all queries of
`must` have to match, none of `must_not`, and at least some of `should`; the other queries are about
one field. So what a search command is rendered to, with its arguments in the holes, finds exactly
the documents that satisfy its criteria.
-/

namespace DataCommand

universe u

section Search
variable {α : Type u} [LinearOrder α] (order : Value → α) (row : Row α)

/-- The verdict of a bound on a field. What is not there is within no bound. -/
def findsBound (field : Option α) : String → Document Value → Option Bool
  | "gt", .hole v => (v.standing order).map fun b => field.any fun a => decide (a > b)
  | "gte", .hole v => (v.standing order).map fun b => field.any fun a => decide (a ≥ b)
  | "lt", .hole v => (v.standing order).map fun b => field.any fun a => decide (a < b)
  | "lte", .hole v => (v.standing order).map fun b => field.any fun a => decide (a ≤ b)
  | _, _ => none

/-- The verdict of a query that has no other queries in it. -/
def findsLeaf : String → List (String × Document Value) → Option Bool
  | "match_all", [] => some true
  | "match", [(field, .hole v)] => (v.standing order).map fun b => decide (row field = some b)
  | "term", [(field, .hole v)] => (v.standing order).map fun b => decide (row field = some b)
  | "range", [(field, .object bounds)] =>
    (bounds.mapM fun e => findsBound order (row field) e.1 e.2).map fun verdicts => verdicts.all id
  | "terms", [(field, .array items)] =>
    (items.mapM (Document.standing order)).map fun bs => (row field).any bs.contains
  | "exists", [("field", .str field)] => some (row field).isSome
  | _, _ => none

/-- How many queries of `should` have to match: as many as are said to, or else one if nothing must
match, and none if something must. -/
def minimumShould (parts : List (String × Document Value)) : Int :=
  match parts.lookup "minimum_should_match" with
  | some (.int n) => n
  | _ => if (parts.lookup "must").isSome then 0 else 1

/-- The verdict of one part of a combination, by the verdicts of its queries. -/
def findsOccurrence (minimum : Int) : String → List Bool → Option Bool
  | "must", verdicts => some (verdicts.all id)
  | "must_not", verdicts => some (!verdicts.any id)
  | "should", verdicts => some (decide (minimum ≤ verdicts.count true))
  | _, _ => none

mutual

/-- The verdict of a query on a document; none if it is no such query. -/
def finds : Document Value → Option Bool
  | .object [(query, d)] => findsClause query d
  | _ => none

/-- The verdict of the query of some name. -/
def findsClause (query : String) : Document Value → Option Bool
  | .object entries =>
    if query = "bool" then findsParts (minimumShould entries) entries
    else findsLeaf order row query entries
  | _ => none

/-- The verdict of the parts of a combination. -/
def findsParts (minimum : Int) : List (String × Document Value) → Option Bool
  | [] => some true
  | (key, d) :: rest =>
    (findsPart minimum key d).bind fun verdict =>
      (findsParts minimum rest).map fun rest => verdict && rest

/-- The verdict of one part of a combination. -/
def findsPart (minimum : Int) (key : String) : Document Value → Option Bool
  | .array queries => (findsItems queries).bind (findsOccurrence minimum key)
  | .int _ => if key = "minimum_should_match" then some true else none
  | _ => none

/-- The verdicts of several queries. -/
def findsItems : List (Document Value) → Option (List Bool)
  | [] => some []
  | d :: rest => (finds d).bind fun verdict => (findsItems rest).map fun rest => verdict :: rest

end

variable {order} {row}

theorem findsItems_eq_mapM (items : List (Document Value)) :
    findsItems order row items = items.mapM (finds order row) := by
  induction items with
  | nil => rfl
  | cons d rest ih =>
    rw [findsItems, ih, List.mapM_cons]
    cases finds order row d with
    | none => rfl
    | some verdict => cases rest.mapM (finds order row) <;> rfl

/-- Queries that were written one by one have their verdicts one by one. -/
theorem findsItems_map {γ : Type} {write : γ → Document Value} {meaning : γ → Bool} {xs : List γ}
    (h : ∀ x ∈ xs, finds order row (write x) = some (meaning x)) :
    findsItems order row (xs.map write) = some (xs.map meaning) := by
  rw [findsItems_eq_mapM]
  exact mapM_map_eq_some h

/-- The only part of a combination decides. -/
theorem finds_occurrence {γ : Type} {key : String} {connect : List Bool → Bool}
    (hkey : ∀ minimum verdicts, findsOccurrence minimum key verdicts = some (connect verdicts))
    {write : γ → Document Value} {meaning : γ → Bool} {xs : List γ}
    (h : ∀ x ∈ xs, finds order row (write x) = some (meaning x)) :
    finds order row (.entry "bool" (.entry key (.array (xs.map write)))) =
      some (connect (xs.map meaning)) := by
  rw [Document.entry, Document.entry, finds, findsClause, if_pos rfl, findsParts, findsPart,
    findsItems_map h, Option.bind_some, hkey, findsParts, Option.bind_some, Option.map_some,
    Bool.and_true]

theorem finds_mustNot {query : Document Value} {verdict : Bool}
    (h : finds order row query = some verdict) :
    finds order row (.mustNot query) = some (!verdict) := by
  simp only [Document.mustNot, Document.entry, finds, findsClause, if_true, findsParts, findsPart,
    findsItems, h]
  simp [findsOccurrence]

theorem finds_mustNotIf (negated : Bool) {query : Document Value} {verdict : Bool}
    (h : finds order row query = some verdict) :
    finds order row (.mustNotIf negated query) = some (negated ^^ verdict) := by
  cases negated with
  | false => simpa [Document.mustNotIf] using h
  | true => simpa [Document.mustNotIf] using finds_mustNot h

theorem finds_onField {query : String} (hquery : query ≠ "bool") (field : String)
    (value : Document Value) :
    finds order row (.onField query field value) = findsLeaf order row query [(field, value)] := by
  simp only [Document.onField, Document.entry, finds, findsClause, if_neg hquery]

theorem finds_range (field : String) (bounds : List (String × Document Value)) :
    finds order row (.range field bounds) =
      (bounds.mapM fun e => findsBound order (row field) e.1 e.2).map fun verdicts =>
        verdicts.all id := by
  rw [Document.range, finds_onField (by decide)]
  rfl

theorem finds_fieldExists (field : String) :
    finds order row (.fieldExists field) = some (row field).isSome := by
  simp only [Document.fieldExists, Document.entry, finds, findsClause]
  simp [findsLeaf]

/-! ### Conditions -/

variable {c : Condition} (d : Dialect)

/-- The query of a comparison that needs an operand. -/
theorem finds_comparison {column : String} {a : α} (hfield : row column = some a)
    {comparison : Comparison} (h : comparison.isOrdering = true) {v : Value} (hv : v.isScalar)
    {around : Option String} (haround : Text.unlessBlank around = none) (wildcards : Wildcards) :
    finds order row (Condition.comparisonQuery d column comparison v around wildcards) =
      some (comparison.relates a (order v)) := by
  have hstanding := Value.standing_of_isScalar order hv
  have hequal : ∀ query, query = "match" ∨ query = "term" →
      finds order row (.onField query column (.hole v)) = some (decide (a = order v)) := by
    rintro query (rfl | rfl) <;> rw [finds_onField (by decide)] <;>
      simp [findsLeaf, hstanding, hfield]
  cases comparison with
  | eq =>
    simp only [Condition.comparisonQuery, Document.bindOver_plain v haround]
    exact hequal "match" (.inl rfl)
  | ne =>
    simp only [Condition.comparisonQuery, Document.bindOver_plain v haround]
    rw [finds_mustNot (hequal "term" (.inr rfl)), Comparison.relates, decide_not]
  | gt | ge | lt | le =>
    simp only [Condition.comparisonQuery, Document.bindOver_plain v haround, finds_range]
    simp [findsBound, hstanding, hfield, Comparison.relates]
  | _ => exact absurd h (by decide)

/-- The query of a condition finds what the condition holds of. -/
theorem finds_query (h : c.Answered row) :
    finds order row (c.query d) = some (c.holds order row) := by
  cases h with
  | isNull column operand wildcards hterm =>
    simp only [Condition.query, Condition.comparisonQuery, Condition.field, hterm,
      Option.getD_none]
    rw [finds_mustNot (finds_fieldExists column), Option.not_isSome]
    rfl
  | isNotNull column operand wildcards hterm =>
    simp only [Condition.query, Condition.comparisonQuery, Condition.field, hterm,
      Option.getD_none]
    exact finds_fieldExists column
  | @compare column a hfield comparison hcomparison v hv term around wildcards hterm haround =>
    simp only [Condition.query, Condition.field, hterm, Option.getD_none, Option.getD_some]
    rw [finds_comparison d hfield hcomparison hv haround, Condition.holds, hfield,
      Test.holds_compare hcomparison]
  | @within column a hfield negated low high hlow hhigh term lowTerm highTerm hterm hlowTerm
      hhighTerm =>
    have hrange : finds order row (.range column [("gte", .hole low), ("lte", .hole high)]) =
        some (decide (order low ≤ a ∧ a ≤ order high)) := by
      rw [finds_range]
      simp [findsBound, hlow, hhigh, hfield]
    simp only [Condition.query, Condition.field, hterm, Option.getD_none,
      Document.bindOver_plain _ hlowTerm, Document.bindOver_plain _ hhighTerm]
    rw [finds_mustNotIf negated hrange, Condition.holds, hfield]
    rfl
  | @oneOf column a hfield negated values hvalues term around hterm haround =>
    have hterms : finds order row (.onField "terms" column
        (.array (values.map fun v => .bindOver v around))) =
          some (decide (a ∈ values.map order)) := by
      rw [finds_onField (by decide)]
      simp [findsLeaf, Document.mapM_standing order hvalues haround, hfield]
    simp only [Condition.query, Condition.field, hterm, Option.getD_none]
    rw [finds_mustNotIf negated hterms, Condition.holds, hfield]
    rfl

/-- The query of a criterion finds what the criterion holds of. -/
theorem finds_criterion {c : Criterion} (h : c.condition.Answered row) :
    finds order row (c.query d) = some (c.holds order row) :=
  finds_mustNotIf _ (finds_query d h)

/-! ### Criteria -/

theorem finds_queryOfAll {run : List Criterion} (h : ∀ c ∈ run, c.condition.Answered row) :
    finds order row (queryOfAll d run) = some (run.all (Criterion.holds order row)) := by
  refine (finds_occurrence (fun _ _ => rfl) fun c hc => finds_criterion d (h c hc)).trans ?_
  rw [List.all_map]
  rfl

theorem one_le_count_true (verdicts : List Bool) :
    decide ((1 : Int) ≤ verdicts.count true) = verdicts.any id := by
  have hcast : (1 : Int) ≤ verdicts.count true ↔ 0 < verdicts.count true := by omega
  rw [Bool.eq_iff_iff, decide_eq_true_iff, hcast, List.count_pos_iff, List.any_eq_true]
  simp

/-- Alternatives of which one has to match. -/
theorem finds_should {γ : Type} {write : γ → Document Value} {meaning : γ → Bool} {xs : List γ}
    (h : ∀ x ∈ xs, finds order row (write x) = some (meaning x)) :
    finds order row (.entry "bool" (.object [("should", .array (xs.map write)),
      ("minimum_should_match", .int 1)])) = some (xs.any meaning) := by
  have hminimum : minimumShould [("should", .array (xs.map write)),
      ("minimum_should_match", .int 1)] = 1 := rfl
  have hshould : findsOccurrence 1 "should" (xs.map meaning) = some (xs.any meaning) := by
    rw [findsOccurrence, one_le_count_true, List.any_map]
    rfl
  have hparts : findsParts order row 1 [("should", .array (xs.map write)),
      ("minimum_should_match", .int 1)] = some (xs.any meaning) := by
    rw [findsParts, findsPart, findsItems_map h, Option.bind_some, hshould, findsParts, findsPart,
      findsParts, if_pos rfl, Option.bind_some, Option.bind_some, Option.map_some, Option.map_some,
      Bool.and_true, Bool.and_true]
  rw [Document.entry, finds, findsClause, if_pos rfl, hminimum, hparts]

/-- The query of some criteria finds the documents that satisfy them. -/
theorem finds_queryOf {criteria : List Criterion} (h : ∀ c ∈ criteria, c.condition.Answered row) :
    finds order row (queryOf d criteria) = some (satisfies order row criteria) := by
  have hrun : ∀ run ∈ alternatives criteria,
      finds order row (queryOfAll d run) = some (run.all (Criterion.holds order row)) :=
    fun run hrun => finds_queryOfAll d fun c hc => h c (mem_of_mem_alternatives hrun hc)
  unfold queryOf
  cases hruns : alternatives criteria with
  | nil =>
    have hnil : criteria = [] := by rw [← flatten_alternatives criteria, hruns]; rfl
    rw [hnil]
    rfl
  | cons run runs =>
    rw [hruns] at hrun
    rw [satisfies_of_alternatives order row hruns]
    cases runs with
    | nil =>
      rw [List.any_cons, List.any_nil, Bool.or_false]
      exact hrun run (by simp)
    | cons next runs => exact finds_should hrun

end Search

/-- What an object has under a key. -/
def Document.get? {β : Type} (key : String) : Document β → Option (Document β)
  | .object entries => entries.lookup key
  | _ => none

namespace SearchCommand

theorem content_restrictAll : ∀ (criteria : List Criterion) (b : SearchCommand),
    (Builder.restrictAll b criteria).content = Builder.restrictAll b.content criteria
  | [], _ => rfl
  | c :: rest, b =>
    content_restrictAll rest { b with content := (b.content.restrict c.connective c.condition).2 }

/-- Of a command that is asked to take some criteria nothing changes but its criteria. -/
theorem content_restrictAll_eq {b : SearchCommand} (hb : b.content.Unrestricted)
    (criteria : List Criterion) :
    (Builder.restrictAll b criteria).content = { b.content with criteria := taken criteria } := by
  rw [content_restrictAll, DocumentCommand.restrictAll_eq criteria hb.stage, hb.criteria,
    List.nil_append]

theorem get?_query_body (d : Dialect) (b : DocumentCommand) {request : Request}
    (hinsert : request.operation ≠ .insert) :
    (body d b request).get? "query" = some (queryOf d b.criteria) := by
  cases request with
  | select | update | delete => rfl
  | insert => exact absurd rfl hinsert

end SearchCommand

/-- Asked to take plain conditions, a search command answers a request, if it may answer it and its
target names an index, with an endpoint and a body. The arguments behind those that were bound
earlier are as many as there are holes in the body. Put into the holes from left to right they make
a query that finds a document exactly if the document satisfies the conditions that were taken,
provided it has values in the fields that are compared. -/
theorem search_query_finds_satisfying {α : Type u} [LinearOrder α] (order : Value → α)
    (row : Row α) {criteria : List Criterion}
    (h : ∀ c ∈ criteria, c.condition.Plain ∧ row.Knows c.condition) {b : SearchCommand}
    (hb : b.content.Unrestricted) (request : Request) (hinsert : request.operation ≠ .insert)
    (d : Dialect) (quote : Bool) :
    let after := Builder.restrictAll b criteria
    let body := (SearchCommand.body d after.content request).bare
    let result := (after.render request d quote).result
    ((∃ s, result = .ok s) ↔ after.content.permit request = .ok () ∧
      ∃ e, after.endpoint request.operation = .ok e) ∧
    ∀ s, result = .ok s →
      (∃ e, after.endpoint request.operation = .ok e ∧ s.text = e.text ++ " " ++ body.json) ∧
      let bound := s.args.drop b.content.args.length
      s.args = b.content.args ++ bound ∧ bound.length = body.labels.length ∧
      ((body.resolve bound).1.get? "query").bind (finds order row) =
        some (satisfies order row (taken criteria)) := by
  intro after body result
  refine ⟨SearchCommand.exists_render_eq_ok_iff, fun s hs => ?_⟩
  obtain ⟨-, e, he, rfl⟩ := SearchCommand.render_eq_ok_iff.1 hs
  have hcontent : after.content = { b.content with criteria := taken criteria } :=
    SearchCommand.content_restrictAll_eq hb criteria
  have hearlier : after.content.args = b.content.args := by rw [hcontent]
  have hcriteria : after.content.criteria = taken criteria := by rw [hcontent]
  refine ⟨⟨e, he, ?_⟩, ?_⟩
  · rw [Statement.text_after, SearchCommand.text_part, Document.json_bare]
  · intro bound
    have hbound : bound = (SearchCommand.body d after.content request).labels := by
      simp [bound, SearchCommand.args_part, hearlier]
    refine ⟨?_, ?_, ?_⟩
    · rw [hbound, Statement.args_after, hearlier, SearchCommand.args_part]
    · rw [hbound, Document.length_labels_bare]
    · rw [hbound, Document.resolve_bare, Document.resolve_own,
        SearchCommand.get?_query_body d after.content hinsert, hcriteria, Option.bind_some]
      exact finds_queryOf d (Condition.answered_of_mem_taken h)

/-- A search command without conditions, with a value that was bound earlier. -/
def sampleSearch : SearchCommand :=
  { content := { target := { table := "t" }, args := [.int 9] }, layout := .typeless }

/-- What is queried after the sample criteria have come, with nothing in the holes. -/
def sampleQuery : Document Unit :=
  (SearchCommand.body .elastic (Builder.restrictAll sampleSearch sampleCriteria).content
    .select).bare

theorem search_query_finds_satisfying_sampleRow :
    ((Builder.restrictAll sampleSearch sampleCriteria).render .select .elastic false).result =
        .ok ⟨"POST /t/_search " ++ sampleQuery.json,
          [.int 9, .int 4, .int 6, .int 3, .int 7, .int 8]⟩ ∧
      ((sampleQuery.resolve [.int 4, .int 6, .int 3, .int 7, .int 8]).1.get? "query").bind
        (finds integerOrder sampleRow) = some true := by
  have hresult :
      ((Builder.restrictAll sampleSearch sampleCriteria).render .select .elastic false).result =
        .ok ⟨"POST /t/_search " ++ sampleQuery.json,
          [.int 9, .int 4, .int 6, .int 3, .int 7, .int 8]⟩ := by rfl
  have hb : sampleSearch.content.Unrestricted := ⟨rfl, rfl⟩
  have hinsert : Request.select.operation ≠ .insert := by decide
  have hsatisfied : satisfies integerOrder sampleRow (taken sampleCriteria) = true := by decide
  obtain ⟨-, hfinds⟩ := search_query_finds_satisfying integerOrder sampleRow sampleCriteria_plain
    hb .select hinsert .elastic false
  obtain ⟨-, -, -, hverdict⟩ := hfinds _ hresult
  rw [hsatisfied] at hverdict
  exact ⟨hresult, hverdict⟩

end DataCommand
