import DataCommand.Proofs.CommandFile.Rendering
import DataCommand.Proofs.Parts.Interleaving
import DataCommand.Proofs.TargetParts

/-!
The name of the target in a rendered file. A file is accepted if it names a table or a catalog, and
every statement holds the name that the dialect composes of its target. Without a table only a
search server has the catalog to fall back on: other dialects drop the table, or write it as it is,
and so end in a qualifier or in nothing.
-/

namespace DataCommand

/-! ### The name in the statement -/

namespace Text

theorem infix_append_left {part s : String} (h : part.toList <:+: s.toList) (t : String) :
    part.toList <:+: (s ++ t).toList := by
  rw [String.toList_append]
  exact List.infix_append_of_infix_left h

theorem infix_append_right {part t : String} (s : String) (h : part.toList <:+: t.toList) :
    part.toList <:+: (s ++ t).toList := by
  rw [String.toList_append]
  exact List.infix_append_of_infix_right h

end Text

namespace Dialect
variable (d : Dialect)

theorem infix_plainInsert (quote : Bool) (table : String) (columns terms : List String) :
    table.toList <:+: (d.plainInsert quote table columns terms).toList :=
  Text.infix_append_left (Text.infix_append_right _ List.infix_rfl) _

theorem infix_mergeSource (quote : Bool) (table : String)
    (primaryKey columns terms : List String) :
    table.toList <:+: (d.mergeSource quote table primaryKey columns terms).toList := by
  unfold mergeSource
  simp only [String.append_assoc]
  exact Text.infix_append_right _ (Text.infix_append_left List.infix_rfl _)

/-- Whatever it does about conflicts, an insert names its table. -/
theorem infix_insertText (quote : Bool) (table : String) (primaryKey columns terms : List String)
    (onConflict : OnConflict) :
    table.toList <:+: (d.insertText quote table primaryKey columns terms onConflict).toList := by
  have hplain := d.infix_plainInsert quote table columns terms
  have hmerge := d.infix_mergeSource quote table primaryKey columns terms
  cases onConflict with
  | plain => exact hplain
  | skip =>
    simp only [insertText, skippingInsert]
    cases d.conflictForm with
    | none => exact hplain
    | duplicateKey => exact Text.infix_append_left (Text.infix_append_right _ List.infix_rfl) _
    | onConflict => exact Text.infix_append_left hplain _
    | merge => exact Text.infix_append_left hmerge _
  | overwrite =>
    simp only [insertText, overwritingInsert]
    cases d.conflictForm with
    | none => exact hplain
    | duplicateKey | onConflict => exact Text.infix_append_left hplain _
    | merge => exact Text.infix_append_left (Text.infix_append_left hmerge _) _

/-- The query stands as it is in its window. -/
theorem infix_window (form : WindowForm) (query : String) (start limit : UInt64) :
    query.toList <:+: (window form query start limit).1.toList := by
  cases form with
  | offsetFetch | limitOffset =>
    exact Text.infix_append_left (Text.infix_append_left List.infix_rfl _) _
  | limitPair =>
    simp only [window]
    repeat' split
    all_goals first | exact List.infix_rfl | exact Text.infix_append_left List.infix_rfl _
  | rowNumber =>
    simp only [window]
    repeat' split
    · exact List.infix_rfl
    all_goals
      exact Text.infix_append_left
        (Text.infix_append_left (Text.infix_append_right _ List.infix_rfl) _) _
  | hint => exact Text.infix_append_right _ List.infix_rfl

theorem infix_counted (q : Statement) : q.text.toList <:+: (d.counted q).text.toList := by
  unfold counted
  split
  · exact Text.infix_append_right _ List.infix_rfl
  · exact Text.infix_append_left (Text.infix_append_right _ List.infix_rfl) _

end Dialect

/-- The statement of a file holds the one that its command was rendered as. -/
theorem Plan.infix_wrap {p : Plan} {d : Dialect} {q s : Statement} (h : p.wrap d q = .ok s) :
    q.text.toList <:+: s.text.toList := by
  obtain ⟨cut, hcut, rfl⟩ := Except.eq_of_map_eq_ok h
  have hq : q.text.toList <:+: cut.text.toList := by
    cases hwindow : p.window with
    | none =>
      obtain rfl : q = cut := by simpa [hwindow] using hcut
      exact List.infix_rfl
    | some w =>
      simp only [hwindow] at hcut
      obtain ⟨bounds, -, rfl⟩ := Except.eq_of_map_eq_ok hcut
      exact Dialect.infix_window d.windowForm q.text w.start w.limit
  split
  · exact hq.trans (d.infix_counted cut)
  · exact hq

/-- A family in which the target of a command is what the last `setTarget` has made it, and in which
whatever is rendered for the dialect holds the name of the target. -/
structure WritesTarget (σ : Type) [Builder σ] [Partitioned σ] (d : Dialect) : Prop where
  target_only : ∀ b : σ, Builder.target (Partitioned.only .target b) = Builder.target b
  setTarget : ∀ (t : Target) (b : σ), (Builder.call (.setTarget t) b).1 = .ok () ∧
    Builder.target (Builder.call (.setTarget t) b).2 = t
  rendered : ∀ (request : Request) (quote : Bool) (b : σ) (s : Statement),
    (Builder.render request d quote b).result = .ok s →
      (d.targetText quote (Builder.target b)).toList <:+: s.text.toList

theorem SqlCommand.infix_part (request : Request) (d : Dialect) (quote : Bool) (b : SqlCommand) :
    (d.targetText quote b.target).toList <:+: (b.part request d quote).text.toList := by
  cases request with
  | select =>
    exact Text.infix_append_left
      (Text.infix_append_right _ (Text.infix_append_right _ List.infix_rfl)) _
  | update =>
    exact Text.infix_append_left
      (Text.infix_append_left
        (Text.infix_append_left (Text.infix_append_right _ List.infix_rfl) _) _) _
  | delete => exact Text.infix_append_left (Text.infix_append_right _ List.infix_rfl) _
  | insert primaryKey onConflict => exact d.infix_insertText _ _ _ _ _ _

theorem DocumentCommand.infix_part (request : Request) (d : Dialect) (quote : Bool)
    (b : DocumentCommand) :
    (d.targetText quote b.target).toList <:+: (b.part request d quote).text.toList := by
  have hmethod : ∀ method arguments,
      (d.targetText quote b.target).toList <:+:
        (b.methodCall d quote method arguments).text.toList := fun method arguments =>
    Text.infix_append_left
      (Text.infix_append_left
        (Text.infix_append_left
          (Text.infix_append_left (Text.infix_append_left List.infix_rfl _) _) _) _) _
  cases request with
  | select => exact Text.infix_append_left (hmethod _ _) _
  | update | delete | insert => exact hmethod _ _

theorem SqlCommand.writesTarget (d : Dialect) : WritesTarget SqlCommand d := by
  refine ⟨fun _ => rfl, fun _ _ => ⟨rfl, rfl⟩, fun request quote b s h => ?_⟩
  obtain ⟨_, -, rfl⟩ := Except.eq_of_map_eq_ok ((b.render_result request d quote).symm.trans h)
  exact b.infix_part request d quote

theorem DocumentCommand.writesTarget (d : Dialect) : WritesTarget DocumentCommand d := by
  refine ⟨fun _ => rfl, fun _ _ => ⟨rfl, rfl⟩, fun request quote b s h => ?_⟩
  obtain ⟨_, -, rfl⟩ := Except.eq_of_map_eq_ok ((b.render_result request d quote).symm.trans h)
  exact b.infix_part request d quote

theorem Target.eq_indexName {t : Target} {index : String} (h : t.index = .ok index) :
    index = t.indexName := by
  unfold Target.index at h
  split at h
  · cases h
  · exact (Except.ok.inj h).symm

/-- A search server is addressed by the name of an index alone, which stands in its paths. -/
theorem SearchCommand.writesTarget : WritesTarget SearchCommand .elastic := by
  refine ⟨fun _ => rfl, fun _ _ => ⟨rfl, rfl⟩, fun request quote b s h => ?_⟩
  obtain ⟨-, e, he, rfl⟩ := SearchCommand.render_eq_ok_iff.1 h
  obtain ⟨index, hindex, rfl⟩ := Except.eq_of_map_eq_ok he
  have hname : Dialect.elastic.targetText quote b.content.target = index :=
    (Target.eq_indexName hindex).symm
  have hpath : index.toList <:+:
      (b.layout.path request.operation index b.content.target.mappingType).toList := by
    cases hl : b.layout <;> cases ho : request.operation <;>
      simp only [PathLayout.path, PathLayout.components, List.map_cons, List.cons_append,
        String.join_cons] <;>
      exact Text.infix_append_left (Text.infix_append_right _ List.infix_rfl) _
  show (Dialect.elastic.targetText quote b.content.target).toList <:+: _
  rw [hname]
  exact Text.infix_append_left (Text.infix_append_left (Text.infix_append_right _ hpath) _) _

/-! ### The target under the steps of a file -/

namespace Step
variable {σ : Type} [Builder σ] [Partitioned σ]

theorem part?_of_allOn {p : Part} : ∀ {steps : List Step}, allOn p steps = true →
    ∀ s ∈ steps, s.part? = some p
  | [], _ => by simp
  | _ :: _, h => List.forall_mem_cons.2 ⟨(allOn_cons h).1, part?_of_allOn (allOn_cons h).2⟩

/-- Steps that work on other parts leave a part alone. -/
theorem runAll_outside {q : Part} (goOn : Bool) : ∀ {steps : List Step},
    (∀ s ∈ steps, ∃ p, s.part? = some p ∧ q ≠ p) → ∀ b : σ,
      Partitioned.only q (runAll goOn steps b).after = Partitioned.only q b
  | [], _, _ => rfl
  | s :: rest, h, b => by
    obtain ⟨⟨p, hp, hq⟩, hrest⟩ := List.forall_mem_cons.1 h
    simp only [runAll]
    split
    · exact run_other hq hp b
    · rw [runAll_outside goOn hrest, run_other hq hp]

end Step

namespace FilterEntry

mutual

/-- The step of an entry works on the filter. -/
theorem part?_step : ∀ (entry : FilterEntry) {s : Step}, entry.step = .ok s →
    s.part? = some .filter
  | .mk f entries, s, h => by
    obtain ⟨_, c, -, rfl, -⟩ | ⟨text, -, -, rfl⟩ | ⟨body, -, hbody, rfl⟩ := step_cases h
    · rfl
    · rfl
    · simp [Step.part?, allOn_steps entries hbody]

theorem allOn_steps : ∀ (entries : List FilterEntry) {body : List Step},
    steps entries = .ok body → Step.allOn .filter body = true
  | [], body, h => by
    obtain rfl := Except.ok.inj h
    rfl
  | entry :: rest, body, h => by
    obtain ⟨s, tail, hs, htail, rfl⟩ := steps_cons h
    simp [Step.allOn, part?_step entry hs, allOn_steps rest htail]

end

end FilterEntry

namespace CommandFile

/-- The clauses of a file work on other parts than the target. -/
theorem part?_clauses {file : CommandFile} {projections filter : List Step}
    (hprojections : file.projections.mapM ProjectionEntry.step = .ok projections)
    (hfilter : FilterEntry.steps file.filter = .ok filter) :
    ∀ s ∈ projections ++ filter ++ file.trailing, ∃ p, s.part? = some p ∧ Part.target ≠ p := by
  obtain ⟨calls, rfl, hcalls⟩ := exists_projections hprojections
  have hfiltering := Step.part?_of_allOn (FilterEntry.allOn_steps _ hfilter)
  simp only [List.forall_mem_append, trailing, List.forall_mem_map]
  refine ⟨⟨fun c hc => ⟨.projection, ?_, by simp⟩, fun s hs => ⟨.filter, hfiltering s hs, by simp⟩⟩,
    ⟨⟨fun _ _ => ⟨.filter, rfl, by simp⟩, fun _ _ => ⟨.filter, rfl, by simp⟩⟩,
      fun _ _ => ⟨.assignment, rfl, by simp⟩⟩, fun _ _ => ⟨.row, rfl, by simp⟩⟩
  have hprojection := hcalls c hc
  cases c with
  | project | projectText => rfl
  | _ => simp [Call.isProjection] at hprojection

end CommandFile

/-- What a file is rendered as holds the name of its target. -/
theorem Plan.infix_renderOn {σ : Type} [Builder σ] [Partitioned σ] {d : Dialect}
    (hσ : WritesTarget σ d) {file : CommandFile} {p : Plan} (hplan : file.plan = .ok p)
    {quote : Bool} {b : σ} {s : Statement} (h : (p.renderOn d quote b).1 = .ok s) :
    (d.targetText quote file.target).toList <:+: s.text.toList := by
  obtain ⟨projections, filter, hprojections, hfilter, -, -, hsteps, -⟩ :=
    CommandFile.exists_parts hplan
  obtain ⟨hset, htargeted⟩ := hσ.setTarget file.target b
  have hclauses := CommandFile.part?_clauses hprojections hfilter
  -- the first step sets the target, and no other one touches it
  have htarget : Builder.target (Step.runAll false p.steps b).after = file.target := by
    rw [hsteps, Step.runAll]
    simp only [Step.run, hset, Reply.ofResult, Reply.error?, Option.isSome_none, Bool.and_false,
      Bool.false_eq_true, if_false]
    rw [← hσ.target_only, Step.runAll_outside false hclauses, hσ.target_only, htargeted]
  cases hfailure : Step.failure? p.steps b with
  | some e =>
    rw [renderOn_of_failed hfailure] at h
    cases h
  | none =>
    rw [renderOn_of_passes ⟨hfailure, rfl⟩] at h
    obtain ⟨q, hq, hwrap⟩ := Except.exists_of_bind_eq_ok h
    have hinfix := hσ.rendered p.request quote _ q hq
    rw [htarget] at hinfix
    exact hinfix.trans (infix_wrap hwrap)

/-! ### The target of a file -/

/-- Names are quoted in a plan if they are in the file. -/
theorem CommandFile.quote_of_plan {file : CommandFile} {p : Plan} (h : file.plan = .ok p) :
    p.quote = file.quote := by
  obtain ⟨_, -, h⟩ := Except.exists_of_bind_eq_ok h
  obtain ⟨_, -, h⟩ := Except.exists_of_bind_eq_ok h
  obtain ⟨_, -, h⟩ := Except.exists_of_bind_eq_ok h
  obtain ⟨_, -, h⟩ := Except.exists_of_bind_eq_ok h
  obtain ⟨_, -, h⟩ := Except.exists_of_bind_eq_ok h
  obtain rfl := Except.ok.inj h
  rfl

/-- A plan is made of files that name a table or a catalog. -/
theorem CommandFile.isNamed_of_plan {file : CommandFile} {p : Plan} (h : file.plan = .ok p) :
    file.target.IsNamed := by
  obtain ⟨_, hcheck, -⟩ := Except.exists_of_bind_eq_ok h
  unfold checkTarget at hcheck
  rw [Text.unlessBlank_some] at hcheck
  cases htable : Text.isBlank file.target.table with
  | false => exact .inl htable
  | true =>
    right
    cases hcatalog : Text.unlessBlank file.target.catalog with
    | some catalog => rfl
    | none => simp [htable, hcatalog] at hcheck

namespace Backend

theorem targetForm_eq_database_iff (b : Backend) :
    b.dialect.targetForm = .database ↔ b = .mongo := by
  cases b <;> decide

theorem targetForm_eq_index_iff (b : Backend) :
    b.dialect.targetForm = .index ↔ b.family = .search := by
  cases b <;> decide

theorem targetForm_eq_dotted_iff (b : Backend) :
    b.dialect.targetForm = .dotted ↔ b.family = .sql ∧ b ≠ .oracle := by
  cases b <;> decide

theorem targetForm_leaves_out_iff (b : Backend) :
    b.dialect.targetForm = .dotted ∨ b.dialect.targetForm = .index ↔
      b ≠ .oracle ∧ b ≠ .mongo := by
  cases b <;> decide

end Backend

/-- The name of the target in the statement of an accepted file consists of names that the file
gives, and of the default database. If there is a table, none of them is blank, and the last one is
the table. Without a table there is a blank name in the dialects that write it in any case; and the
catalog comes last in the place of the table only for search servers, and where tables are named by
all that is not blank, if there is no schema or if it has the same name. -/
theorem written_target_named_iff {file : CommandFile} {p : Plan} (h : file.plan = .ok p)
    (backend : Backend) (forceQuote : Bool) :
    let d := backend.dialect
    let t := file.target
    let names := Dialect.targetParts d.targetForm t
    (∀ s, (p.render backend forceQuote).1 = .ok s →
      (Text.join "." (names.map (d.identifier (forceQuote || file.quote)))).toList <:+:
        s.text.toList) ∧
    (∀ name ∈ names, name ∈ t.names ∨ backend = .mongo ∧ name = "db") ∧
    ((∀ name ∈ names, Text.isBlank name = false) ↔
      Text.isBlank t.table = false ∨ backend ≠ .oracle ∧ backend ≠ .mongo) ∧
    (names.getLast? = some t.indexName ↔
      Text.isBlank t.table = false ∨ backend.family = .search ∨
        (backend.family = .sql ∧ backend ≠ .oracle) ∧ (Text.unlessBlank t.schema = none ∨
          Text.unlessBlank t.schema = Text.unlessBlank t.catalog)) := by
  intro d t names
  have ht : t.IsNamed := CommandFile.isNamed_of_plan h
  refine ⟨fun s hs => ?_, fun name hname => ?_, ?_, ?_⟩
  · have hquote : p.quote = file.quote := CommandFile.quote_of_plan h
    rw [← hquote]
    cases backend with
    | mongo => exact Plan.infix_renderOn (DocumentCommand.writesTarget _) h hs
    | elastic6 | elastic7 => exact Plan.infix_renderOn SearchCommand.writesTarget h hs
    | standard | mysql | postgres | oracle =>
      exact Plan.infix_renderOn (SqlCommand.writesTarget _) h hs
  · rw [← backend.targetForm_eq_database_iff]
    exact Dialect.mem_names_of_mem_targetParts ht hname
  · rw [← backend.targetForm_leaves_out_iff]
    exact Dialect.forall_targetParts_iff ht d.targetForm
  · rw [← backend.targetForm_eq_index_iff, ← backend.targetForm_eq_dotted_iff]
    exact Dialect.getLast?_targetParts_iff ht d.targetForm

/-- A file with nothing but a catalog. -/
def tableless : CommandFile := { target := { catalog := some "c" } }

/-- The catalog is the index of a search server; the table of Oracle ends in a dot. -/
theorem written_target_named_iff_tableless :
    ∃ p, tableless.plan = .ok p ∧
      (Dialect.targetParts Dialect.elastic.targetForm tableless.target).getLast? = some "c" ∧
      ¬ (∀ name ∈ Dialect.targetParts Dialect.oracle.targetForm tableless.target,
        Text.isBlank name = false) ∧
      (p.render .oracle false).1 = .ok ⟨"SELECT * FROM c.", []⟩ := by
  have hplan : tableless.plan = .ok _ := rfl
  obtain ⟨-, -, -, hlast⟩ := written_target_named_iff hplan .elastic7 false
  obtain ⟨-, -, hblank, -⟩ := written_target_named_iff hplan .oracle false
  refine ⟨_, hplan, hlast.2 (.inr (.inl rfl)), fun hall => ?_, rfl⟩
  rcases hblank.1 hall with htable | ⟨horacle, -⟩
  · cases htable
  · exact horacle rfl

end DataCommand
