import DataCommand.Dialect.Builtin
import DataCommand.Proofs.Chain
import DataCommand.SqlCommand.Render
import Mathlib.Data.List.DropRight

/-!
Chains as direct calls. A caller without a chain gives every condition and every group a connective
of its own, writes down what came of each call, and makes no request as long as there is a failure
in the notes. The connective is read off the links that come before, and the failure off the notes,
so neither is kept along the way; what a chain keeps along the way is shown to be the same.
-/

namespace DataCommand

/-! ### Callers with notes -/

/-- What a caller without a chain does. -/
inductive Direct where
  | call (c : Call)
  /-- A group, which is judged by the notes on its contents. -/
  | group (connective : Connective) (body : List Direct)
  | render (request : Request) (dialect : Dialect) (quote : Bool)
  /-- A step of which no note is taken. -/
  | unnoted (step : Step)

/-- A note on a call. -/
inductive Note where
  | made (result : Except CommandError Unit)
  | reset

namespace Note

def isReset : Note → Bool
  | .reset => true
  | .made _ => false

def error? : Note → Option CommandError
  | .made (.error e) => some e
  | _ => none

/-- The first failure behind the last reset. -/
def firstFailure (notes : List Note) : Option CommandError :=
  (notes.rtakeWhile fun n => !n.isReset).findSome? error?

/-- The verdict of some notes on what they are about. -/
def verdict (notes : List Note) : Except CommandError Unit :=
  match firstFailure notes with
  | some e => .error e
  | none => .ok ()

/-- A failure counts only if there was none before. -/
theorem firstFailure_concat_made (notes : List Note) (result : Except CommandError Unit) :
    firstFailure (notes ++ [.made result]) = (firstFailure notes).or (made result).error? := by
  unfold firstFailure
  rw [List.rtakeWhile_concat_pos _ _ _ (by rfl), List.findSome?_append]
  cases result <;> rfl

theorem firstFailure_concat_reset (notes : List Note) :
    firstFailure (notes ++ [.reset]) = none := by
  unfold firstFailure
  rw [List.rtakeWhile_concat_neg _ _ _ (by simp [isReset])]
  rfl

end Note

/-- A command with the notes of its caller, and what was logged. -/
structure Caller (σ : Type) where
  command : σ
  notes : List Note := []
  events : List Event := []

/-- A call whose outcome is written down. -/
def Caller.note {σ : Type} (s : Caller σ) (o : Outcome σ) : Caller σ :=
  { s with command := o.2, notes := s.notes ++ [.made o.1] }

mutual

/-- What a caller does, one thing. -/
def Direct.perform {σ : Type} [Builder σ] : Direct → Caller σ → Caller σ
  | .call .clear, s =>
    { s with command := (Builder.call .clear s.command).2, notes := s.notes ++ [.reset] }
  | .call c, s => s.note (Builder.call c s.command)
  | .group connective body, s =>
    match Builder.openGroup connective s.command with
    | .error e => s.note (.error e, s.command)
    | .ok (mark, opened) =>
      let inner := Direct.performAll body { command := opened }
      let closed := s.note (Builder.closeGroup mark (Note.verdict inner.notes) inner.command)
      { closed with events := s.events ++ inner.events }
  | .render request dialect quote, s =>
    match Note.firstFailure s.notes with
    | some _ => s
    | none =>
      let r := Builder.render request dialect quote s.command
      { s with command := r.after, events := s.events ++ r.events }
  | .unnoted step, s =>
    let r := step.run s.command
    { s with command := r.after, events := s.events ++ r.events }

/-- What a caller does, in order. -/
def Direct.performAll {σ : Type} [Builder σ] : List Direct → Caller σ → Caller σ
  | [], s => s
  | d :: rest, s => Direct.performAll rest (d.perform s)

end

theorem Direct.performAll_append {σ : Type} [Builder σ] :
    ∀ (xs ys : List Direct) (s : Caller σ),
      performAll (xs ++ ys) s = performAll ys (performAll xs s)
  | [], _, _ => rfl
  | x :: xs, ys, s => performAll_append xs ys (x.perform s)

/-! ### The direct form of a chain -/

namespace Link

/-- The link has a connective in front of it. -/
def takesConnective : Link → Bool
  | .condition _ | .verbatim _ _ | .group _ => true
  | _ => false

/-- The link leaves no connective for the ones behind it: it takes it, or it resets everything. -/
def settles : Link → Bool
  | .clear => true
  | l => l.takesConnective

/-- Whether the link asks for OR or for AND. -/
def alternative? : Link → Option Bool
  | .or => some true
  | .and => some false
  | _ => none

def negates : Link → Bool
  | .not => true
  | _ => false

/-- The connective that some links ask for: the last one of OR and AND counts, and every NOT. -/
def asked (links : List Link) : Connective where
  alternative := (links.filterMap alternative?).getLastD false
  negated := links.any negates

/-- The connective behind some links of a level: what has been asked for since the last link that
`ends` what was asked for before. -/
def pendingAfter (ends : Link → Bool) (earlier : List Link) : Connective :=
  asked (earlier.rtakeWhile fun l => !ends l)

mutual

/-- What a caller does instead of a link that comes behind `earlier` ones of its level. -/
def unchained (ends : Link → Bool) (earlier : List Link) : Link → List Direct
  | .group body => [.group (pendingAfter ends earlier) (unchainedAll ends [] body)]
  | .project columns => columns.map fun column => .call (.project column none)
  | .clear => [.call .clear]
  | .render request d quote => [.render request d quote]
  | .direct step => [.unnoted step]
  | l => ((l.call? (pendingAfter ends earlier)).map Direct.call).toList

/-- What a caller does instead of some links. -/
def unchainedAll (ends : Link → Bool) (earlier : List Link) : List Link → List Direct
  | [] => []
  | l :: rest => unchained ends earlier l ++ unchainedAll ends (earlier ++ [l]) rest

end

/-- A level of a chain with a group in it, which begins with a connective of its own. -/
example (p q r : Condition) :
    unchainedAll settles [] [.condition p, .or, .not, .group [.condition q, .or], .condition r] =
      [.call (.condition {} p), .group ⟨true, true⟩ [.call (.condition {} q)],
        .call (.condition {} r)] := rfl

end Link

section Pending
variable {l : Link} (earlier : List Link)

theorem Link.pendingAfter_concat_of_settles (hl : l.settles = true) :
    pendingAfter settles (earlier ++ [l]) = {} := by
  unfold pendingAfter
  rw [List.rtakeWhile_concat_neg _ _ _ (by simp [hl])]
  rfl

theorem Link.pendingAfter_concat (hl : l.settles = false) :
    pendingAfter settles (earlier ++ [l]) =
      { alternative := l.alternative?.getD (pendingAfter settles earlier).alternative
        negated := l.negates || (pendingAfter settles earlier).negated } := by
  unfold pendingAfter asked
  rw [List.rtakeWhile_concat_pos _ _ _ (by simp [hl]), Bool.or_comm]
  simp only [List.filterMap_append, List.any_append, List.any_cons, List.any_nil, Bool.or_false]
  cases halternative : l.alternative? <;> simp [halternative]

end Pending

/-! ### A chain beside a caller -/

/-- Behind some links of a level, a chain knows what a caller knows. -/
structure Follows {σ : Type} (earlier : List Link) (events : List Event) (c : Chain σ)
    (s : Caller σ) : Prop where
  command : c.command = s.command
  pending : c.pending = Link.pendingAfter Link.settles earlier
  error : c.error = Note.firstFailure s.notes
  events : events = s.events

namespace Follows

theorem start {σ : Type} (command : σ) : Follows [] [] { command } { command } :=
  ⟨rfl, rfl, rfl, rfl⟩

section Link
variable {σ : Type} {earlier : List Link} {events : List Event} {c : Chain σ} {s : Caller σ}
  {l : Link} (h : Follows earlier events c s)
include h

/-- The connective is used up. -/
theorem settled (hl : l.settles = true) : Follows (earlier ++ [l]) events c.settled s :=
  { h with pending := (Link.pendingAfter_concat_of_settles earlier hl).symm }

/-- The link asks for no connective and uses up none. -/
theorem idle (hl : l.settles = false) (halternative : l.alternative? = none)
    (hnegates : l.negates = false) : Follows (earlier ++ [l]) events c s :=
  { h with
    pending := by
      rw [Link.pendingAfter_concat earlier hl, halternative, hnegates, h.pending]
      simp }

/-- The link asks for something, and what was asked for before stays asked for. -/
theorem awaits (hl : l.settles = false) :
    Follows (earlier ++ [l]) events
      { c with pending :=
        { alternative := l.alternative?.getD c.pending.alternative
          negated := l.negates || c.pending.negated } } s :=
  { h with pending := by rw [Link.pendingAfter_concat earlier hl, h.pending] }

/-- What the chain knows of failures is the verdict of the notes. -/
theorem check : c.check = Note.verdict s.notes := by
  unfold Chain.check Note.verdict
  cases hfirst : Note.firstFailure s.notes <;> rw [h.error, hfirst]

/-- The outcome of a call is kept, and written down. -/
theorem note (o : Outcome σ) : Follows earlier events (c.keep o) (s.note o) where
  command := rfl
  pending := h.pending
  error := by
    rw [Caller.note, Note.firstFailure_concat_made, ← h.error]
    obtain ⟨result, after⟩ := o
    cases herror : c.error <;> cases result <;> simp [Chain.keep, herror, Note.error?]
  events := h.events

/-- Something that is done to the command without a note. -/
theorem unnoted (later : List Event) (after : σ) :
    Follows earlier (events ++ later) { c with command := after }
      { s with command := after, events := s.events ++ later } :=
  { h with command := rfl, events := congrArg (· ++ later) h.events }

/-- Everything is reset: no connective is pending, and no failure is on record. -/
theorem reset (after : σ) :
    Follows (earlier ++ [.clear]) events { command := after }
      { s with command := after, notes := s.notes ++ [.reset] } where
  command := rfl
  pending := (Link.pendingAfter_concat_of_settles earlier rfl).symm
  error := (Note.firstFailure_concat_reset s.notes).symm
  events := h.events

end Link

variable {σ : Type} [Builder σ] {earlier : List Link} {events : List Event}

theorem call {c : Chain σ} {s : Caller σ} (h : Follows earlier events c s) {k : Call}
    (hk : k ≠ .clear) : Follows earlier events (c.call k) ((Direct.call k).perform s) := by
  have hperform : (Direct.call k).perform s = s.note (Builder.call k s.command) := by
    cases k with
    | clear => exact absurd rfl hk
    | _ => rfl
  rw [hperform, Chain.call, h.command]
  exact h.note _

theorem project : ∀ (columns : List String) {c : Chain σ} {s : Caller σ},
    Follows earlier events c s →
    Follows earlier events (columns.foldl (fun c column => c.call (.project column none)) c)
      (Direct.performAll (columns.map fun column => .call (.project column none)) s)
  | [], _, _, h => h
  | _ :: columns, _, _, h => project columns (h.call (by simp))

/-- A link that is one call and logs nothing. -/
theorem made {c : Chain σ} {s : Caller σ} (h : Follows earlier events c s) {k : Call}
    (hk : k ≠ .clear) :
    Follows earlier (events ++ []) (c.call k) (Direct.performAll [.call k] s) := by
  rw [List.append_nil]
  exact h.call hk

/-- A link that does nothing to the command. -/
theorem skipped {c : Chain σ} {s : Caller σ} (h : Follows earlier events c s) :
    Follows earlier (events ++ []) c (Direct.performAll [] s) := by
  rw [List.append_nil]
  exact h

end Follows

section Run
variable {σ : Type} [Builder σ]

mutual

/-- A link does on a chain what its direct form does for a caller. -/
theorem Link.run_follows : ∀ (l : Link) {earlier : List Link} {events : List Event} {c : Chain σ}
    {s : Caller σ}, Follows earlier events c s →
    Follows (earlier ++ [l]) (events ++ (l.run c).events) (l.run c).after
      (Direct.performAll (l.unchained Link.settles earlier) s)
  | .group body, earlier, events, c, s, h => by
    have hsettled : Follows (earlier ++ [.group body]) events c.settled s := h.settled rfl
    simp only [Link.unchained, Direct.performAll, Direct.perform, Link.run, h.pending, h.command]
    cases hopen : Builder.openGroup (Link.pendingAfter Link.settles earlier) s.command with
    | error e =>
      rw [List.append_nil]
      exact hsettled.note _
    | ok opening =>
      obtain ⟨mark, opened⟩ := opening
      -- inside, chain and caller begin anew, with nothing asked for and nothing written down
      have hinner := Link.runAll_follows body (Follows.start opened)
      have hverdict := hinner.check
      have hlogged : (Link.runAll body { command := opened }).events = _ := hinner.events
      simp only [hinner.command, hverdict, hlogged]
      exact { hsettled.note _ with events := congrArg (· ++ _) h.events }
  | .render request d quote, earlier, _, c, s, h => by
    have hidle : Follows (earlier ++ [.render request d quote]) _ c s := h.idle rfl rfl rfl
    have herror := h.error
    simp only [Link.unchained, Direct.performAll, Direct.perform]
    cases hfailure : Note.firstFailure s.notes with
    | some e => simpa only [Link.run, Chain.render, herror, hfailure, List.append_nil] using hidle
    | none =>
      simpa only [Link.run, Chain.render, herror, hfailure, h.command] using hidle.unnoted _ _
  | .direct step, _, _, c, s, h => by
    simp only [Link.unchained, Direct.performAll, Direct.perform, Link.run, h.command]
    exact (h.idle rfl rfl rfl).unnoted _ _
  | .project columns, _, _, _, _, h => by
    simp only [Link.run, Chain.follow, List.append_nil]
    exact (h.idle rfl rfl rfl).project columns
  | .clear, _, _, c, s, h => by
    simp only [Link.unchained, Direct.performAll, Direct.perform, Link.run, Chain.follow, h.command,
      List.append_nil]
    exact h.reset _
  | .condition p, earlier, _, c, s, h => by
    have hsettled : Follows (earlier ++ [.condition p]) _ c.settled s := h.settled rfl
    have hmade := hsettled.made (k := .condition c.pending p) (by simp)
    simp only [Link.run, Chain.follow]
    rw [h.pending] at hmade ⊢
    exact hmade
  | .verbatim text args, earlier, _, c, s, h => by
    have hsettled : Follows (earlier ++ [.verbatim text args]) _ c.settled s := h.settled rfl
    have hmade := hsettled.made (k := .verbatim c.pending text args) (by simp)
    simp only [Link.run, Chain.follow]
    rw [h.pending] at hmade ⊢
    exact hmade
  | .or, _, _, _, _, h => (h.awaits (l := .or) rfl).skipped
  | .and, _, _, _, _, h => (h.awaits (l := .and) rfl).skipped
  | .not, _, _, _, _, h => (h.awaits (l := .not) rfl).skipped
  | .setTarget _, _, _, _, _, h => (h.idle rfl rfl rfl).made (by simp)
  | .projectAs _ _, _, _, _, _, h => (h.idle rfl rfl rfl).made (by simp)
  | .projectText _ _, _, _, _, _, h => (h.idle rfl rfl rfl).made (by simp)
  | .projectAll, _, _, _, _, h => (h.idle rfl rfl rfl).made (by simp)
  | .groupBy _, _, _, _, _, h => (h.idle rfl rfl rfl).made (by simp)
  | .sortBy _ _ _ _, _, _, _, _, h => (h.idle rfl rfl rfl).made (by simp)
  | .assign _ _ _, _, _, _, _, h => (h.idle rfl rfl rfl).made (by simp)
  | .supply _ _ _, _, _, _, _, h => (h.idle rfl rfl rfl).made (by simp)
  | .check, _, _, _, _, h => (h.idle rfl rfl rfl).skipped
  | .refused _, _, _, _, _, h => (h.idle rfl rfl rfl).skipped

/-- Links do on a chain what their direct form does for a caller. -/
theorem Link.runAll_follows : ∀ (links : List Link) {earlier : List Link} {events : List Event}
    {c : Chain σ} {s : Caller σ}, Follows earlier events c s →
    Follows (earlier ++ links) (events ++ (Link.runAll links c).events) (Link.runAll links c).after
      (Direct.performAll (Link.unchainedAll Link.settles earlier links) s)
  | [], _, _, _, _, h => by
    simpa [Link.runAll, Link.unchainedAll, Direct.performAll] using h
  | l :: rest, earlier, events, c, s, h => by
    have hhead := Link.run_follows l h
    have htail := Link.runAll_follows rest hhead
    rw [Link.unchainedAll, Direct.performAll_append, Link.runAll]
    simpa only [List.append_assoc, List.singleton_append] using htail

end

/-- A chain leaves the command that its direct form leaves. The first failure that the caller noted
since the last reset is the error of the chain, and the answer to every request; as long as there is
none, the command itself answers. -/
theorem chain_makes_direct_calls (links : List Link) (command : σ) :
    let chain := (Link.runAll links { command }).after
    let caller := Direct.performAll (Link.unchainedAll Link.settles [] links) { command }
    chain.command = caller.command ∧
      (Link.runAll links { command }).events = caller.events ∧
      chain.error = Note.firstFailure caller.notes ∧
      ∀ request d quote, chain.render request d quote =
        match Note.firstFailure caller.notes with
        | some e => ⟨.error e, chain, []⟩
        | none =>
          let r := Builder.render request d quote caller.command
          ⟨r.result, { chain with command := r.after }, r.events⟩ := by
  intro chain caller
  have h : Follows ([] ++ links) ([] ++ (Link.runAll links { command }).events) chain caller :=
    Link.runAll_follows links (Follows.start command)
  refine ⟨h.command, h.events, h.error, fun request d quote => ?_⟩
  rw [← h.error, ← h.command]
  rfl

end Run

/-- A condition behind a reset, with a negation before it. -/
def resetNegation : List Link :=
  [.not, .clear, .setTarget { table := "t" }, .condition ⟨"a", none, .operand .eq (.int 1)⟩]

/-- A connective does not only end with the condition that takes it: a negation that was asked for
before a reset is gone, although no condition has come in between. -/
theorem reset_drops_pending_negation :
    let chain := (Link.runAll resetNegation ({ command := {} } : Chain SqlCommand)).after
    let caller := Direct.performAll (Link.unchainedAll Link.takesConnective [] resetNegation)
      ({ command := {} } : Caller SqlCommand)
    let select (b : SqlCommand) := (b.render .select .standard false).result.toOption.map (·.text)
    chain.command ≠ caller.command ∧
      select chain.command = some "SELECT * FROM t WHERE a = ?" ∧
      select caller.command = some "SELECT * FROM t WHERE NOT a = ?" := by
  intro chain caller select
  have hchain : select chain.command = some "SELECT * FROM t WHERE a = ?" := by decide +kernel
  have hcaller : select caller.command = some "SELECT * FROM t WHERE NOT a = ?" := by
    decide +kernel
  refine ⟨fun heq => ?_, hchain, hcaller⟩
  rw [heq, hcaller] at hchain
  exact absurd hchain (by decide)

end DataCommand
