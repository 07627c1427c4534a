import DataCommand.Dialect.Builtin

/-!
The backends that commands can be rendered for: their names, their dialects, and the family of
commands that each of them takes.
-/

namespace DataCommand

/-- A family of commands with a form of its own. -/
inductive Family where
  | sql
  | document
  | search
  deriving DecidableEq, Repr, Inhabited

/-- The backends; the two Elasticsearch generations differ in their paths alone. -/
inductive Backend where
  | standard
  | mysql
  | postgres
  | oracle
  | mongo
  | elastic6
  | elastic7
  deriving DecidableEq, Repr, Inhabited

namespace Backend

def all : List Backend :=
  [.standard, .mysql, .postgres, .oracle, .mongo, .elastic6, .elastic7]

def name : Backend → String
  | .standard => "standard"
  | .mysql => "mysql"
  | .postgres => "postgres"
  | .oracle => "oracle"
  | .mongo => "mongo"
  | .elastic6 => "elastic6"
  | .elastic7 => "elastic7"

/-- Other names that files and command lines may use. -/
def aliases : Backend → List String
  | .mysql => ["mariadb"]
  | .postgres => ["postgresql", "pg"]
  | .mongo => ["mongodb"]
  | .elastic7 => ["elastic"]
  | _ => []

def dialect : Backend → Dialect
  | .standard => .standard
  | .mysql => .mysql
  | .postgres => .postgres
  | .oracle => .oracle
  | .mongo => .mongo
  | .elastic6 => .elastic
  | .elastic7 => .elastic

def family : Backend → Family
  | .mongo => .document
  | .elastic6 | .elastic7 => .search
  | _ => .sql

/-- The backend with exactly this name or alias. -/
def named? (s : String) : Option Backend :=
  all.find? fun b => b.name == s || b.aliases.contains s

/-- Reads a name given by a person: trimmed, in any case, and with one alias more. -/
def parse (s : String) : Except CommandError Backend :=
  let s := String.ofList (foldCase (Text.trim s))
  match if s = "ansi" then some .standard else named? s with
  | some b => .ok b
  | none => .error (.invalid (.unknownBackend s))

end Backend

end DataCommand
