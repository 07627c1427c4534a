import DataCommand.Builder.Script

/-!
Chained building. A chain keeps a pending connective, so that conditions read from left to right,
and the first error of its calls, which comes up when the command is rendered. Inside a group a
fresh chain runs on the same command, and its first error is the verdict on the group.
-/

namespace DataCommand

/-- A command with what a chain of calls remembers. -/
structure Chain (σ : Type) where
  command : σ
  /-- The connective of the next condition. -/
  pending : Connective := {}
  error : Option CommandError := none

/-- A link of a chain. -/
inductive Link where
  | setTarget (target : Target)
  /-- The next condition is joined by OR. -/
  | or
  /-- The next condition is joined by AND. -/
  | and
  /-- The next condition is negated. -/
  | not
  | condition (c : Condition)
  | verbatim (text : String) (args : List Value)
  | project (columns : List String)
  /-- An expression under the name of a column. -/
  | projectAs (column term : String)
  | projectText (text : String) (args : List Value)
  | projectAll
  | groupBy (column : String)
  | sortBy (column : String) (term : Option String) (order : SortOrder) (nulls : NullsPlace)
  | assign (column : String) (value : Value) (term : Option String)
  | supply (column : String) (value : Value) (term : Option String)
  | clear
  | group (body : List Link)
  | render (request : Request) (dialect : Dialect) (quote : Bool)
  /-- Asks for the first error. -/
  | check
  /-- A step on the command itself, of which the chain keeps no error. -/
  | direct (step : Step)
  /-- A link that fails before it reaches the chain. -/
  | refused (e : CommandError)

/-- The reply to a link. -/
inductive LinkReply where
  /-- The first error after the call. -/
  | recorded (error : Option CommandError)
  | group (error : Option CommandError) (inner : List LinkReply)
  | checked (result : Except CommandError Unit)
  | rendered (result : Except CommandError Statement)
  | direct (reply : Reply)
  | refused (e : CommandError)

namespace Chain
variable {σ : Type} [Builder σ]

/-- The first error as a verdict. -/
def check (c : Chain σ) : Except CommandError Unit :=
  match c.error with
  | some e => .error e
  | none => .ok ()

/-- The chain with no connective pending. -/
def settled (c : Chain σ) : Chain σ := { c with pending := {} }

/-- The chain after a call; an error counts if it is the first one. -/
def keep (c : Chain σ) (o : Outcome σ) : Chain σ :=
  { c with
    command := o.2
    error := match c.error, o.1 with
      | some e, _ => some e
      | none, .error e => some e
      | none, .ok () => none }

/-- The chain after a construction call. -/
def call (c : Chain σ) (call : Call) : Chain σ := c.keep (Builder.call call c.command)

/-- The chain after a link that runs nothing but calls. -/
def follow (c : Chain σ) : Link → Chain σ
  | .setTarget target => c.call (.setTarget target)
  | .or => { c with pending := { c.pending with alternative := true } }
  | .and => { c with pending := { c.pending with alternative := false } }
  | .not => { c with pending := { c.pending with negated := true } }
  | .condition p => c.settled.call (.condition c.pending p)
  | .verbatim text args => c.settled.call (.verbatim c.pending text args)
  | .project columns => columns.foldl (fun c column => c.call (.project column none)) c
  | .projectAs column term => c.call (.project column (some term))
  | .projectText text args => c.call (.projectText text args)
  | .projectAll => c.call .projectAll
  | .groupBy column => c.call (.groupBy column none)
  | .sortBy column term order nulls => c.call (.sortBy column term order nulls)
  | .assign column value term => c.call (.assign column value term)
  | .supply column value term => c.call (.supply column value term)
  | .clear => { command := (Builder.call .clear c.command).2 }
  | _ => c

/-- The answer to a request: the first error, or else what the command answers. -/
def render (request : Request) (d : Dialect) (quote : Bool) (c : Chain σ) : Rendered (Chain σ) :=
  match c.error with
  | some e => ⟨.error e, c, []⟩
  | none =>
    let r := Builder.render request d quote c.command
    ⟨r.result, { c with command := r.after }, r.events⟩

end Chain

mutual

/-- Runs a link. -/
def Link.run {σ : Type} [Builder σ] : Link → Chain σ → Run (Chain σ) LinkReply
  | .group body, c =>
    match Builder.openGroup c.pending c.command with
    | .error e =>
      let after := c.settled.keep (.error e, c.command)
      ⟨.group after.error [], [], after⟩
    | .ok (mark, opened) =>
      let inner := Link.runAll body { command := opened }
      let after := c.settled.keep (Builder.closeGroup mark inner.after.check inner.after.command)
      ⟨.group after.error inner.reply, inner.events, after⟩
  | .render request dialect quote, c =>
    let r := c.render request dialect quote
    ⟨.rendered r.result, r.events, r.after⟩
  | .check, c => ⟨.checked c.check, [], c⟩
  | .direct step, c =>
    let r := step.run c.command
    ⟨.direct r.reply, r.events, { c with command := r.after }⟩
  | .refused e, c => ⟨.refused e, [], c⟩
  | l, c =>
    let after := c.follow l
    ⟨.recorded after.error, [], after⟩

/-- Runs the links of a chain in order. -/
def Link.runAll {σ : Type} [Builder σ] : List Link → Chain σ → Run (Chain σ) (List LinkReply)
  | [], c => ⟨[], [], c⟩
  | l :: rest, c =>
    let head := l.run c
    let tail := Link.runAll rest head.after
    ⟨head.reply :: tail.reply, head.events ++ tail.events, tail.after⟩

end

end DataCommand
