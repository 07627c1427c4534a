import DataCommand.Proofs.Appending
import DataCommand.Proofs.Chain
import DataCommand.Proofs.Filter.Placement

/-!
Failures. Whatever fails on a command, a call or a request, leaves the command as it was, and so it
does under a chain. The exception are groups of a relational command: what has been done in a group
before it fails is not in general undone. The other families refuse a group before anything is done
in it.
-/

namespace DataCommand

/-- The step is a group. -/
def Step.isGroup : Step → Bool
  | .group _ _ _ _ => true
  | _ => false

/-- The link is a group, in the chain or on the command itself. -/
def Link.isGroup : Link → Bool
  | .group _ => true
  | .direct step => step.isGroup
  | _ => false

/-- The error that is seen in the reply to a link. -/
def LinkReply.error? : LinkReply → Option CommandError
  | .recorded e => e
  | .group e _ => e
  | .checked (.error e) => some e
  | .rendered (.error e) => some e
  | .direct reply => reply.error?
  | .refused e => some e
  | _ => none

section Family
variable {σ : Type} [Builder σ]

/-- The error of a link itself, and not one that the chain remembers. -/
def Link.error? (l : Link) (c : Chain σ) : Option CommandError :=
  (l.run { c with error := none }).reply.error?

/-- A step other than a group that fails on the command leaves it as it was. -/
def FailsCleanly (b : σ) : Prop :=
  ∀ s : Step, s.isGroup = false → ∀ e, (s.run b).reply.error? = some e → (s.run b).after = b

/-- A group is refused before anything is done in it, in a script and in a chain. -/
structure RefusesGroups (b : σ) : Prop where
  step : ∀ k body goOn verdict,
    ∃ e, (Step.group k body goOn verdict).run b = ⟨.group (.error e) [], [], b⟩
  link : ∀ (c : Chain σ) body, c.command = b → ((Link.group body).run c).after.command = b

/-- What fails on a chain leaves the command under it as it was. -/
structure Chain.FailsCleanly (c : Chain σ) : Prop where
  link : ∀ l : Link, l.isGroup = false → ∀ e, l.error? c = some e →
    (l.run c).after.command = c.command
  /-- A request that fails leaves the rest of the chain as it was, too. -/
  request : ∀ (request : Request) (d : Dialect) (quote : Bool) (e : CommandError),
    (c.render request d quote).result = .error e → (c.render request d quote).after = c
  /-- A remembered error is the answer to every request. -/
  remembered : ∀ e, c.error = some e → ∀ (request : Request) (d : Dialect) (quote : Bool),
    c.render request d quote = ⟨.error e, c, []⟩

/-- Steps fail cleanly if calls and requests do. -/
theorem FailsCleanly.of_calls [Appending σ] {b : σ}
    (hcall : ∀ c e, (Builder.call c b).1 = .error e → (Builder.call c b).2 = b) :
    FailsCleanly b := by
  intro s hs e h
  cases s with
  | call c =>
    cases hresult : (Builder.call c b).1 with
    | error e' => exact hcall c e' hresult
    | ok => simp [Step.run, hresult, Reply.ofResult, Reply.error?] at h
  | render request d quote =>
    cases hresult : (Builder.render request d quote b).result with
    | error e' => simp only [Step.run, Appending.after, hresult]
    | ok s => simp [Step.run, hresult, Reply.ofStatement, Reply.error?] at h
  | ask | refused => rfl
  | group => simp [Step.isGroup] at hs

theorem FailsCleanly.call {b : σ} (hb : FailsCleanly b) {c : Call} {e : CommandError}
    (h : (Builder.call c b).1 = .error e) : (Builder.call c b).2 = b :=
  hb (.call c) rfl e (by simp [Step.run, h, Reply.ofResult, Reply.error?])

theorem FailsCleanly.render {b : σ} (hb : FailsCleanly b) {request : Request} {d : Dialect}
    {quote : Bool} {e : CommandError} (h : (Builder.render request d quote b).result = .error e) :
    (Builder.render request d quote b).after = b :=
  hb (.render request d quote) rfl e (by simp [Step.run, h, Reply.ofStatement, Reply.error?])

namespace Chain
variable {c : Chain σ}

/-- A chain without an error gets that of its call. -/
theorem error_call (herror : c.error = none) {call : Call} {e : CommandError}
    (h : (c.call call).error = some e) : (Builder.call call c.command).1 = .error e := by
  unfold Chain.call Chain.keep at h
  rw [herror] at h
  cases hresult : (Builder.call call c.command).1 with
  | error e' => simpa [hresult] using h
  | ok => simp [hresult] at h

/-- Columns are projected without an error, if every single one is. -/
theorem error_project
    (hproject : ∀ column (b : σ), (Builder.call (.project column none) b).1 = .ok ()) :
    ∀ (columns : List String) (c : Chain σ), c.error = none →
      (columns.foldl (fun c column => c.call (.project column none)) c).error = none
  | [], _, h => h
  | column :: rest, c, h => by
    refine error_project hproject rest (c.call (.project column none)) ?_
    simp [Chain.call, Chain.keep, h, hproject]

theorem render_remembered {e : CommandError} (herror : c.error = some e) (request : Request)
    (d : Dialect) (quote : Bool) : c.render request d quote = ⟨.error e, c, []⟩ := by
  simp [render, herror]

/-- A request that fails leaves the chain as it was, if it so leaves its command. -/
theorem after_render_of_error (hc : DataCommand.FailsCleanly c.command) {request : Request}
    {d : Dialect} {quote : Bool} {e : CommandError}
    (h : (c.render request d quote).result = .error e) : (c.render request d quote).after = c := by
  obtain ⟨command, pending, error⟩ := c
  cases error with
  | some e' => rw [render_remembered rfl]
  | none => exact congrArg (fun b => (⟨b, pending, none⟩ : Chain σ)) (hc.render h)

/-- A link with a call that fails leaves the command as it was. -/
theorem command_call_of_error (hc : DataCommand.FailsCleanly c.command) {l : Link} {call : Call}
    (hcall : l.call? c.pending = some call) {e : CommandError} (h : l.error? c = some e) :
    (l.run c).after.command = c.command := by
  obtain ⟨before, hcommand, -, hrun⟩ := Link.run_of_call (c := c) hcall
  obtain ⟨fresh, hfresh, hnone, hown⟩ := Link.run_of_call (c := { c with error := none }) hcall
  rw [Link.error?, hown] at h
  have hfailed : (Builder.call call c.command).1 = .error e := by
    simpa only [hfresh] using error_call hnone h
  rw [hrun, Chain.call, keep, hcommand, hc.call hfailed]

/-- A chain fails cleanly if its command does. -/
theorem failsCleanly (hc : DataCommand.FailsCleanly c.command)
    (hproject : ∀ column (b : σ), (Builder.call (.project column none) b).1 = .ok ()) :
    c.FailsCleanly := by
  refine ⟨fun l hl e h => ?_, fun _ _ _ _ => after_render_of_error hc,
    fun _ => render_remembered⟩
  cases hcall : l.call? c.pending with
  | some call => exact command_call_of_error hc hcall h
  | none =>
    cases l with
    | project columns =>
      have hnone := error_project hproject columns { c with error := none } rfl
      exact absurd (hnone.symm.trans h) (by simp)
    | render request d quote =>
      cases hresult : (c.render request d quote).result with
      | error e' => exact congrArg Chain.command (after_render_of_error hc hresult)
      | ok s =>
        -- a chain that answers remembers no error, so the error would be that of the command
        have hsame : ({ c with error := none } : Chain σ) = c := by
          cases herror : c.error with
          | none => rw [← herror]
          | some e' => simp [render_remembered herror] at hresult
        simp [Link.error?, hsame, Link.run, hresult, LinkReply.error?] at h
    | direct step => exact hc step hl e h
    | clear => simp [Link.error?, Link.run, LinkReply.error?, follow] at h
    | or | and | not | check | refused => rfl
    | group => simp [Link.isGroup] at hl
    | _ => simp [Link.call?] at hcall

end Chain

end Family

theorem SqlCommand.call_of_error {b : SqlCommand} (hb : b.filterState.Tidy) {c : Call}
    {e : CommandError} (h : (call c b).1 = .error e) : (call c b).2 = b := by
  cases c with
  | condition k c =>
    obtain ⟨e', hcall⟩ | ⟨-, -, hcall⟩ := b.restrict_cases k c
    · exact congrArg Prod.snd hcall
    · simp [call, hcall] at h
  | verbatim k text args =>
    obtain ⟨e', hcall⟩ | ⟨-, -, hcall⟩ := b.restrictVerbatim_cases k text args
    · exact congrArg Prod.snd hcall
    · simp [call, hcall] at h
  | groupBy column term =>
    obtain ⟨-, e', hcall⟩ | ⟨_, _, -, -, -, hcall⟩ := groupBy_cases hb column term
    · exact congrArg Prod.snd hcall
    · simp [call, hcall] at h
  | sortBy column term order nulls =>
    obtain ⟨-, e', hcall⟩ | ⟨_, _, -, -, hcall⟩ := sortBy_cases hb column term order nulls
    · exact congrArg Prod.snd hcall
    · simp [call, hcall] at h
  | supply column value term =>
    simp only [call] at h ⊢
    split at h
    · rfl
    · simp at h
  | _ => simp [call] at h

theorem DocumentCommand.call_of_error (label : String) {b : DocumentCommand} {c : Call}
    {e : CommandError} (h : (call label c b).1 = .error e) : (call label c b).2 = b := by
  cases c with
  | condition k c =>
    simp only [call, restrict] at h ⊢
    split
    · rfl
    · split
      · rfl
      · simp_all
  | supply column value term =>
    simp only [call] at h ⊢
    split at h
    · rfl
    · simp at h
  | verbatim | projectText | groupBy => rfl
  | _ => simp [call] at h

theorem SearchCommand.call_of_error {b : SearchCommand} {c : Call} {e : CommandError}
    (h : (call c b).1 = .error e) : (call c b).2 = b := by
  have hcontent : (DocumentCommand.call "search endpoint" c b.content).2 = b.content :=
    DocumentCommand.call_of_error _ h
  simp only [call, hcontent]

/-- A call or a request that fails leaves the command as it was, its bound values included, whether
it is made on the command itself or by a chain, and whatever has come before: in the relational
family too, where groups that were undone may have taken lists of keys away. The other families do
not even begin a group. -/
theorem failed_calls_change_nothing :
    (∀ b : SqlCommand, Reachable {} b → FailsCleanly b) ∧
    (∀ c : Chain SqlCommand, Reachable {} c.command → ∀ links,
      (Link.runAll links c).after.FailsCleanly) ∧
    (∀ b : DocumentCommand, FailsCleanly b ∧ RefusesGroups b) ∧
    (∀ c : Chain DocumentCommand, c.FailsCleanly) ∧
    (∀ b : SearchCommand, FailsCleanly b ∧ RefusesGroups b) ∧
    (∀ c : Chain SearchCommand, c.FailsCleanly) := by
  have hsql : ∀ b : SqlCommand, Reachable {} b → FailsCleanly b := fun b hb =>
    .of_calls fun _ _ => SqlCommand.call_of_error (SqlCommand.tidy_of_reachable hb)
  have hdocument : ∀ b : DocumentCommand, FailsCleanly b := fun b =>
    .of_calls fun _ _ => DocumentCommand.call_of_error "document store"
  have hsearch : ∀ b : SearchCommand, FailsCleanly b := fun b =>
    .of_calls fun _ _ => SearchCommand.call_of_error
  refine ⟨hsql, fun c hc links => ?_,
    fun b => ⟨hdocument b, ⟨fun _ _ _ _ => ⟨_, rfl⟩, fun _ _ h => h⟩⟩, fun c => ?_,
    fun b => ⟨hsearch b, ⟨fun _ _ _ _ => ⟨_, rfl⟩, fun _ _ h => h⟩⟩, fun c => ?_⟩
  · exact Chain.failsCleanly (hsql _ (Chain.reachable_runAll hc links)) fun _ _ => rfl
  · exact Chain.failsCleanly (hdocument c.command) fun _ _ => rfl
  · exact Chain.failsCleanly (hsearch c.command) fun _ _ => rfl

/-- A key whose list has gone with a group is refused. A chain on the command keeps the error, and
gives it as the answer to a request. -/
theorem failed_calls_change_nothing_displacedRun :
    let b := (Session.run (⟨{}, []⟩ : Session SqlCommand) displacedRun).command
    let key : Step := .call (.groupBy "y" none)
    let c := (Link.runAll [.or, .groupBy "y"] ({ command := b } : Chain SqlCommand)).after
    (key.run b).reply.error? = some (.invalid .displaced) ∧ (key.run b).after = b ∧
      (Link.groupBy "z").error? c = some (.invalid .displaced) ∧
      ((Link.groupBy "z").run c).after.command = c.command ∧
      c.render .select .standard false = ⟨.error (.invalid .displaced), c, []⟩ := by
  intro b key c
  have hb : Reachable ({} : SqlCommand) b := ⟨displacedRun, rfl⟩
  have hkey : (key.run b).reply.error? = some (.invalid .displaced) := rfl
  have hlink : (Link.groupBy "z").error? c = some (.invalid .displaced) := rfl
  have hc : c.FailsCleanly := failed_calls_change_nothing.2.1 { command := b } hb _
  exact ⟨hkey, failed_calls_change_nothing.1 b hb key rfl _ hkey, hlink,
    hc.link _ rfl _ hlink, hc.remembered _ rfl .select .standard false⟩

end DataCommand
