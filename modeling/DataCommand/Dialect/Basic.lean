import DataCommand.Condition.Basic
import DataCommand.Target
import DataCommand.Text.Join
import DataCommand.Vocabulary

/-!
Dialects as records of capabilities. A dialect says how it writes names, targets and LIKE operands,
what grouping and ordering may refer to, where nulls can be sorted, how an insert meets a conflict
and how a window of rows is cut out. A command holds no dialect, so one command can be rendered for
any of them.
-/

namespace DataCommand

/-- How identifiers are written. -/
inductive Naming where
  /-- Between quotes on request, and whenever they are reserved. -/
  | delimited
  /-- Always as they are. -/
  | verbatim
  deriving DecidableEq, Repr

/-- How the parts of a target are composed. -/
inductive TargetForm where
  /-- All parts that are not blank, catalog first, with dots between them. -/
  | dotted
  /-- The table behind its innermost qualifier. -/
  | owned
  /-- The collection behind its database. -/
  | database
  /-- The index alone, named by the table or else by the catalog. -/
  | index
  deriving DecidableEq, Repr

/-- How the operand of LIKE is written. -/
inductive LikeForm where
  /-- `'%' || ? || '%'` -/
  | operator
  /-- `CONCAT('%', ?, '%')` -/
  | call
  /-- `CONCAT(CONCAT('%', ?), '%')` -/
  | nestedCall
  /-- The operand alone; its value carries the pattern. -/
  | bare
  deriving DecidableEq, Repr

/-- What becomes of the value bound to a LIKE operand. -/
inductive LikePattern where
  | unchanged
  /-- A regular expression with anchors. -/
  | anchored
  /-- A wildcard pattern. -/
  | wildcard
  deriving DecidableEq, Repr

/-- How nulls are steered where there is no syntax for it. -/
inductive NullsFallback where
  /-- A sort key in front of the key itself. -/
  | sortKey
  /-- Not at all. -/
  | dropped
  deriving DecidableEq, Repr

/-- How an insert meets rows whose key is taken. -/
inductive ConflictForm where
  /-- Not at all. -/
  | none
  /-- `INSERT IGNORE` and `ON DUPLICATE KEY UPDATE`. -/
  | duplicateKey
  /-- `ON CONFLICT`. -/
  | onConflict
  /-- `MERGE INTO`. -/
  | merge
  deriving DecidableEq, Repr

/-- How a window of rows is cut out of a query. -/
inductive WindowForm where
  /-- `OFFSET ? ROWS FETCH NEXT ? ROWS ONLY` -/
  | offsetFetch
  /-- `LIMIT ?, ?` -/
  | limitPair
  /-- `LIMIT ? OFFSET ?` -/
  | limitOffset
  /-- A query around the query that compares row numbers. -/
  | rowNumber
  /-- A comment for the executor in front of the command. -/
  | hint
  deriving DecidableEq, Repr

/-- The capabilities of a backend. -/
structure Dialect where
  /-- The name in logs. -/
  name : String
  leftQuote : Char := '\x22'
  rightQuote : Char := '\x22'
  /-- The reserved words that the dialect lists. -/
  reserved : List String
  /-- Further words that it treats as reserved. -/
  alsoReserved : List String := []
  naming : Naming := .delimited
  targetForm : TargetForm := .dotted
  /-- What stands between a projected expression and its alias. -/
  aliasSeparator : String := " "
  likeForm : LikeForm := .operator
  likePattern : LikePattern := .unchanged
  /-- GROUP BY may refer to a projection by its alias. -/
  groupsByAlias : Bool := false
  /-- ORDER BY may refer to a projection by its alias. -/
  ordersByAlias : Bool := true
  /-- `NULLS FIRST` and `NULLS LAST` are understood. -/
  ordersNulls : Bool := true
  nullsFallback : NullsFallback := .sortKey
  conflictForm : ConflictForm := .none
  windowForm : WindowForm := .offsetFetch

/-- A text with each closing quote in it written twice. -/
def doubleQuotes (right : Char) : List Char → List Char
  | [] => []
  | c :: cs => if c = right then right :: c :: doubleQuotes right cs else c :: doubleQuotes right cs

/-- A name between quotes. -/
def delimit (left right : Char) (name : String) : String :=
  String.ofList (left :: (doubleQuotes right name.toList ++ [right]))

/-- The characters of a text with small letters of ASCII for its capitals. -/
def foldCase (s : String) : List Char := s.toList.map Char.toLower

namespace Dialect

/-- The name is a reserved word, whatever the case of its ASCII letters. -/
def reserves (d : Dialect) (name : String) : Bool :=
  (d.reserved ++ d.alsoReserved).any fun word => foldCase word == foldCase name

/-- The written form of a name. -/
def identifier (d : Dialect) (quote : Bool) (name : String) : String :=
  match d.naming with
  | .verbatim => name
  | .delimited =>
    if quote || d.reserves name then delimit d.leftQuote d.rightQuote name else name

/-- The written forms of several names, with commas between them. -/
def identifiers (d : Dialect) (quote : Bool) (names : List String) : String :=
  Text.join ", " (names.map (d.identifier quote))

/-- The qualifiers and the table that are written, outermost first. -/
def targetParts (form : TargetForm) (t : Target) : List String :=
  match form with
  | .dotted => [t.catalog, t.schema, some t.table].filterMap Text.unlessBlank
  | .owned => ((Text.unlessBlank t.schema).or (Text.unlessBlank t.catalog)).toList ++ [t.table]
  | .database =>
    [((Text.unlessBlank t.catalog).or (Text.unlessBlank t.schema)).getD "db", t.table]
  | .index => [((Text.unlessBlank (some t.table)).or (Text.unlessBlank t.catalog)).getD ""]

/-- The written form of a target. -/
def targetText (d : Dialect) (quote : Bool) (t : Target) : String :=
  Text.join "." ((targetParts d.targetForm t).map (d.identifier quote))

/-- The operand of LIKE around a placeholder or the expression in its place. -/
def patternText (d : Dialect) (wildcards : Wildcards) (term : String) : String :=
  match d.likeForm, wildcards with
  | .operator, .left => "'%' || " ++ term
  | .operator, .right => term ++ " || '%'"
  | .operator, .both => "'%' || " ++ term ++ " || '%'"
  | .call, .left => "CONCAT('%', " ++ term ++ ")"
  | .call, .right => "CONCAT(" ++ term ++ ", '%')"
  | .call, .both => "CONCAT('%', " ++ term ++ ", '%')"
  | .nestedCall, .left => "CONCAT('%', " ++ term ++ ")"
  | .nestedCall, .right => "CONCAT(" ++ term ++ ", '%')"
  | .nestedCall, .both => "CONCAT(CONCAT('%', " ++ term ++ "), '%')"
  | .bare, _ => term

/-- The value bound to the operand of LIKE. Only texts are turned into patterns, and nothing in them
is escaped. -/
def patternValue (d : Dialect) (wildcards : Wildcards) (v : Value) : Value :=
  match d.likePattern, v, wildcards with
  | .anchored, .text s, .left => .text (s ++ "$")
  | .anchored, .text s, .right => .text ("^" ++ s)
  | .wildcard, .text s, .left => .text ("*" ++ s)
  | .wildcard, .text s, .right => .text (s ++ "*")
  | .wildcard, .text s, .both => .text ("*" ++ s ++ "*")
  | _, v, _ => v

/-- The sort key in front of a key that steers its nulls, for a dialect without syntax for it. -/
def nullsKey (d : Dialect) (expr : String) (nulls : NullsPlace) : String :=
  match d.nullsFallback, nulls with
  | .sortKey, .first => expr ++ " IS NULL DESC, "
  | .sortKey, .last => expr ++ " IS NULL ASC, "
  | _, _ => ""

end Dialect

end DataCommand
