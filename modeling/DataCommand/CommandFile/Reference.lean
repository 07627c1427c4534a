import DataCommand.CommandFile.Basic

/-!
References to variables of the environment. A text is read once from left to right: `$` followed by
a brace opens a reference, and the next closing brace ends it. What a variable holds is copied as
it is and never read again.
-/

namespace DataCommand

/-- The variables that are defined. -/
abbrev Environment := String → Option String

/-- A piece of a text with references. -/
inductive Piece where
  | char (c : Char)
  | reference (name : String)
  /-- A reference without a name. -/
  | nameless
  /-- A reference without an end, and all that follows. -/
  | unclosed
  deriving DecidableEq, Repr

namespace Piece

/-- Cuts a text into pieces. Inside a reference, `name` holds the characters read so far, the last
one first. -/
def scan : Option (List Char) → List Char → List Piece
  | none, [] => []
  | none, '$' :: '\x7b' :: rest => scan (some []) rest
  | none, c :: rest => .char c :: scan none rest
  | some _, [] => [.unclosed]
  | some name, c :: rest =>
    if c = '\x7d' then
      (if name.isEmpty then .nameless else .reference (String.ofList name.reverse)) ::
        scan none rest
    else scan (some (c :: name)) rest

/-- The pieces of a text. -/
def ofText (s : String) : List Piece := scan none s.toList

/-- The variable that a piece refers to. -/
def name? : Piece → Option String
  | .reference name => some name
  | _ => none

/-- What a piece of `text` stands for. -/
def expand (env : Environment) (text : String) : Piece → Except FileFault String
  | .char c => .ok (String.ofList [c])
  | .reference name =>
    match env name with
    | some value => .ok value
    | none => .error (.undefinedVariable name)
  | .nameless => .error (.namelessReference text)
  | .unclosed => .error (.unclosedReference text)

/-- What several pieces stand for; the first one that stands for nothing is the fault. -/
def expandAll (env : Environment) (text : String) : List Piece → Except FileFault String
  | [] => .ok ""
  | p :: rest =>
    match p.expand env text with
    | .error e => .error e
    | .ok s => match expandAll env text rest with
      | .error e => .error e
      | .ok t => .ok (s ++ t)

end Piece

/-- The text with every reference replaced. -/
def expandReferences (env : Environment) (text : String) : Except FileFault String :=
  Piece.expandAll env text (Piece.ofText text)

/-- The same for a text that may be absent. -/
def expandOptional (env : Environment) : Option String → Except FileFault (Option String)
  | none => .ok none
  | some text => (expandReferences env text).map some

/-- The target with the references in its parts replaced, the table first. -/
def Target.expand (env : Environment) (t : Target) : Except FileFault Target :=
  match expandReferences env t.table, expandOptional env t.schema, expandOptional env t.catalog with
  | .error e, _, _ => .error e
  | _, .error e, _ => .error e
  | _, _, .error e => .error e
  | .ok table, .ok schema, .ok catalog => .ok { catalog, schema, table }

/-- The variables that the parts of a target refer to. -/
def Target.variables (t : Target) : List String :=
  ([some t.table, t.schema, t.catalog].reduceOption.map Piece.ofText).flatten.filterMap
    Piece.name?

end DataCommand
