import DataCommand.Builder.Basic

/-!
Scripts of calls. A script is a list of steps, each of which gets its reply; a group is a step with
a script of its own, and what that script does happens between opening and closing the group. A run
of a script is thus one value that holds all replies, all log events, and the command at the end.
-/

namespace DataCommand

/-- A question about a command under construction. -/
inductive Query where
  | projects (column : String)
  | projectsAny
  | selectsAll
  | args
  | label
  | target

/-- A step of a script. -/
inductive Step where
  | call (c : Call)
  | render (request : Request) (dialect : Dialect) (quote : Bool)
  | ask (q : Query)
  /-- A step that fails before it reaches the command. -/
  | refused (e : CommandError)
  /-- A group of conditions. Its script stops at the first step that fails, and the group fails with
  it, unless it is told to go on; a script that comes to its end is judged by `verdict`. -/
  | group (connective : Connective) (body : List Step) (goOn : Bool)
      (verdict : Except CommandError Unit)
  deriving Inhabited

/-- The reply to a step. -/
inductive Reply where
  | done
  | failed (e : CommandError)
  | statement (s : Statement)
  | flag (b : Bool)
  | values (vs : List Value)
  | name (s : String)
  | target (t : Target)
  | group (result : Except CommandError Unit) (inner : List Reply)

namespace Reply

/-- The reply to a call. -/
def ofResult : Except CommandError Unit → Reply
  | .ok () => .done
  | .error e => .failed e

/-- The reply to a request. -/
def ofStatement : Except CommandError Statement → Reply
  | .ok s => .statement s
  | .error e => .failed e

/-- The error with which a step has failed. -/
def error? : Reply → Option CommandError
  | .failed e => some e
  | .group (.error e) _ => some e
  | _ => none

end Reply

/-- What came of running something on a command. -/
structure Run (σ ρ : Type) where
  reply : ρ
  events : List Event
  after : σ

/-- The answer to a question. -/
def Query.answer {σ : Type} [Builder σ] (b : σ) : Query → Reply
  | .projects column => .flag (Builder.projects b column)
  | .projectsAny => .flag (Builder.projectsAny b)
  | .selectsAll => .flag (Builder.selectsAll b)
  | .args => .values (Builder.args b)
  | .label => .name (Builder.label b)
  | .target => .target (Builder.target b)

/-- The verdict on the script of a group: the error it stopped at, or else the one it is judged by.
-/
def verdictOn (goOn : Bool) (verdict : Except CommandError Unit) (replies : List Reply) :
    Except CommandError Unit :=
  match if goOn then none else replies.findSome? Reply.error? with
  | some e => .error e
  | none => verdict

mutual

/-- Runs a step. -/
def Step.run {σ : Type} [Builder σ] : Step → σ → Run σ Reply
  | .call c, b =>
    let o := Builder.call c b
    ⟨.ofResult o.1, [], o.2⟩
  | .render request dialect quote, b =>
    let r := Builder.render request dialect quote b
    ⟨.ofStatement r.result, r.events, r.after⟩
  | .ask q, b => ⟨q.answer b, [], b⟩
  | .refused e, b => ⟨.failed e, [], b⟩
  | .group connective body goOn verdict, b =>
    match Builder.openGroup connective b with
    | .error e => ⟨.group (.error e) [], [], b⟩
    | .ok (mark, opened) =>
      let inner := Step.runAll goOn body opened
      let o := Builder.closeGroup mark (verdictOn goOn verdict inner.reply) inner.after
      ⟨.group o.1 inner.reply, inner.events, o.2⟩

/-- Runs several steps in order, up to the first one that fails unless told to go on. -/
def Step.runAll {σ : Type} [Builder σ] (goOn : Bool) : List Step → σ → Run σ (List Reply)
  | [], b => ⟨[], [], b⟩
  | s :: rest, b =>
    let head := s.run b
    if !goOn && head.reply.error?.isSome then ⟨[head.reply], head.events, head.after⟩
    else
      let tail := Step.runAll goOn rest head.after
      ⟨head.reply :: tail.reply, head.events ++ tail.events, tail.after⟩

end

end DataCommand
