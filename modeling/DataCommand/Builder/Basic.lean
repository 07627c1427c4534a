import DataCommand.Dialect.Conflict
import DataCommand.Dialect.Window
import DataCommand.Event
import DataCommand.Stage

/-!
What all commands under construction have in common: the calls that fill them, the requests to
render them, and the answers they give. A call leaves a command behind even if it fails, so an
answer always comes with the command after it.
-/

namespace DataCommand

/-- A construction call. -/
inductive Call where
  | setTarget (target : Target)
  | condition (connective : Connective) (c : Condition)
  /-- A condition in the words of the backend, with its arguments. -/
  | verbatim (connective : Connective) (text : String) (args : List Value)
  /-- A projected column, or an expression under the name of the column. -/
  | project (column : String) (term : Option String)
  | projectText (text : String) (args : List Value)
  /-- Drops the projections and selects every field. -/
  | projectAll
  | clearProjections
  | groupBy (column : String) (term : Option String)
  | sortBy (column : String) (term : Option String) (order : SortOrder) (nulls : NullsPlace)
  | assign (column : String) (value : Value) (term : Option String)
  | clearAssignments
  /-- A column of the row to insert. -/
  | supply (column : String) (value : Value) (term : Option String)
  | clearArgs
  /-- Resets everything. -/
  | clear

/-- A request to render a command. -/
inductive Request where
  | select
  | update (allowUnfiltered : Bool)
  | delete (allowUnfiltered : Bool)
  | insert (primaryKey : List String) (onConflict : OnConflict)

/-- The request that an operation stands for: no leave for an empty filter, and a plain insert. -/
def Operation.request : Operation → Request
  | .select => .select
  | .insert => .insert [] .plain
  | .update => .update false
  | .delete => .delete false

/-- The operation of a request. -/
def Request.operation : Request → Operation
  | .select => .select
  | .update _ => .update
  | .delete _ => .delete
  | .insert _ _ => .insert

/-- The answer to a call, and the command after it. -/
abbrev Outcome (σ : Type) := Except CommandError Unit × σ

/-- The answer to a request, the command after it, and what was logged. -/
structure Rendered (σ : Type) where
  result : Except CommandError Statement
  after : σ
  events : List Event

/-- What a command remembers of the moment when a group was opened. -/
structure GroupMark where
  length : Nat
  hadConditions : Bool
  deriving Inhabited

/-- A command under construction. -/
class Builder (σ : Type) where
  /-- The name of the family in errors. -/
  label : σ → String
  target : σ → Target
  args : σ → Arguments
  /-- The column is projected. -/
  projects : σ → String → Bool
  projectsAny : σ → Bool
  /-- Every field is selected. -/
  selectsAll : σ → Bool
  call : Call → σ → Outcome σ
  /-- Opens a group of conditions; what is called until it is closed lies inside. -/
  openGroup : Connective → σ → Except CommandError (GroupMark × σ)
  /-- Closes a group with the verdict on its contents. -/
  closeGroup : GroupMark → Except CommandError Unit → σ → Outcome σ
  render : Request → Dialect → Bool → σ → Rendered σ

/-- What an insert does about conflicts in a dialect, and the warning if that is not what it was
asked for. -/
def OnConflict.weaken (d : Dialect) (primaryKey : List String) (asked : OnConflict) :
    OnConflict × List Event :=
  if d.resolves primaryKey asked then (asked, [])
  else (.plain, [.weakened d.name asked primaryKey])

namespace Request

/-- The request may be answered without any condition. -/
def allowsUnfiltered : Request → Bool
  | .select | .insert _ _ => true
  | .update allow | .delete allow => allow

/-- What keeps a request from being answered: a mutation has neither conditions nor leave to have
none, an update assigns nothing, an insert supplies nothing. -/
def permit (r : Request) (filtered assigns supplies : Bool) : Except CommandError Unit :=
  if !r.allowsUnfiltered && !filtered then .error (.unfiltered r.operation.keyword)
  else match r with
    | .update _ => if assigns then .ok () else .error (.invalid .nothingAssigned)
    | .insert _ _ => if supplies then .ok () else .error (.invalid .nothingSupplied)
    | .select | .delete _ => .ok ()

/-- The warnings of a request that writes a plain insert, whatever it was asked for. -/
def warnings (d : Dialect) : Request → List Event
  | .insert primaryKey asked => (asked.weaken d primaryKey).2
  | _ => []

end Request

/-- A column with the value it is to hold, and the expression around it. -/
structure Assignment where
  column : String
  value : Value
  term : Option String

namespace Assignment

/-- One more assignment; columns may repeat. -/
def push (column : String) (value : Value) (term : Option String) (assigned : List Assignment) :
    List Assignment :=
  assigned ++ [⟨column, value, Text.unlessBlank term⟩]

/-- One more column of a row, unless it is there already. -/
def pushNew (column : String) (value : Value) (term : Option String) (row : List Assignment) :
    Except CommandError (List Assignment) :=
  if row.any fun a => a.column == column then .error (.invalid (.suppliedTwice column))
  else .ok (push column value term row)

/-- The assignment writes null in so many words, and binds nothing. -/
def isBareNull (a : Assignment) : Bool := a.value.isNull && a.term.isNone

end Assignment

end DataCommand
