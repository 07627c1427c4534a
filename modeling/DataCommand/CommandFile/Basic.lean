import DataCommand.Builder.Basic
import DataCommand.CommandFile.Word

/-!
Command files as they are written. A file names a target and lists the parts of one command; which
fields of an entry apply is not settled here.
-/

namespace DataCommand

/-- What an entry of `where` says. -/
inductive FilterKind where
  | test (comparison : Comparison)
  | raw
  | group
  deriving DecidableEq, Repr

def FilterKind.all : List FilterKind := Comparison.all.map .test ++ [.raw, .group]

def FilterKind.word : FilterKind → String
  | .test comparison => comparison.word
  | .raw => "raw"
  | .group => "group"

/-- An entry of `select`: a column, perhaps with an expression, or a free expression. -/
structure ProjectionEntry where
  column : Option String := none
  term : Option String := none
  expr : Option String := none
  args : List Value := []

/-- The fields of an entry of `where`, the entries of a group apart. -/
structure FilterFields where
  connective : Connective := {}
  kind : FilterKind
  column : Option String := none
  columnTerm : Option String := none
  value : Option Value := none
  valueTerm : Option String := none
  wildcards : Wildcards := .both
  values : List Value := []
  low : Option Value := none
  high : Option Value := none
  text : Option String := none
  args : List Value := []

/-- An entry of `where`. -/
inductive FilterEntry where
  | mk (fields : FilterFields) (entries : List FilterEntry)

/-- An entry of `group_by`. -/
structure GroupEntry where
  column : String
  term : Option String := none

/-- An entry of `order_by`. -/
structure SortEntry where
  column : String
  term : Option String := none
  order : SortOrder := .default
  nulls : NullsPlace := .default

/-- A window over the rows of a query. -/
structure RowWindow where
  start : UInt64 := 0
  limit : UInt64
  deriving DecidableEq, Repr

/-- A command file. -/
structure CommandFile where
  backend : Option Backend := none
  quote : Bool := false
  operation : Operation := .select
  allowUnfiltered : Bool := false
  onConflict : OnConflict := .plain
  primaryKey : List String := []
  count : Bool := false
  window : Option RowWindow := none
  target : Target
  projections : List ProjectionEntry := []
  filter : List FilterEntry := []
  groupBy : List GroupEntry := []
  sortBy : List SortEntry := []
  assignments : List Assignment := []
  row : List Assignment := []

/-- What keeps a file from being a command. -/
inductive FileFault where
  /-- The text is no TOML, or its fields are not those of a command file. -/
  | malformed
  | unclosedReference (text : String)
  | namelessReference (text : String)
  | undefinedVariable (name : String)
  | noTarget
  | ambiguousProjection
  | noColumn (comparison : Comparison)
  | noText
  | noBounds (comparison : Comparison)
  | noList (comparison : Comparison)
  | noValues
  | repeatedColumn (column : String)
  | noAssignments
  | windowOnMutation
  | emptyWindow
  deriving DecidableEq, Repr

/-- The wording of a fault. -/
def FileFault.message : FileFault → String
  | .malformed => "not the TOML of a command file"
  | .unclosedReference text => "unterminated env var reference in '" ++ text ++ "'"
  | .namelessReference text => "empty env var reference in '" ++ text ++ "'"
  | .undefinedVariable name => "missing env var for target expansion: " ++ name
  | .noTarget => "target.table must not be empty"
  | .ambiguousProjection => "each [[select]] needs exactly one of \x60column\x60 or \x60expr\x60"
  | .noColumn comparison => "[[where]] op " ++ comparison.label ++ " requires \x60column\x60"
  | .noText => "[[where]] op raw requires \x60text\x60"
  | .noBounds comparison =>
    "[[where]] op " ++ comparison.label ++ " requires \x60low\x60 and \x60high\x60"
  | .noList comparison =>
    "[[where]] op " ++ comparison.label ++ " requires a non-empty \x60values\x60"
  | .noValues => "operation = \x22insert\x22 requires at least one [[values]] entry"
  | .repeatedColumn column => "duplicate [[values]] column: " ++ column
  | .noAssignments => "operation = \x22update\x22 requires at least one [[set]] entry"
  | .windowOnMutation =>
    "\x60count\x60 and [page] only apply to operation = \x22select\x22"
  | .emptyWindow => "page.limit must be greater than zero"

end DataCommand
