import DataCommand.Dialect.Basic
import DataCommand.Statement

/-!
Fragments of a command that wait for their dialect. A clause is recorded as a list of fragments; a
fragment is written in some style and becomes a part of a statement, text and bound values together.
-/

namespace DataCommand

/-- A fragment of command text. -/
inductive Fragment where
  | word (text : String)
  | openParen
  | closeParen
  /-- A column, or the expression in its place. -/
  | column (name : String) (term : Option String)
  | target (target : Target)
  /-- A bound value behind a placeholder, or behind the expression in its place. -/
  | bound (value : Value) (term : Option String)
  /-- The operand of LIKE. -/
  | pattern (value : Value) (wildcards : Wildcards) (term : Option String)
  /-- Text of the caller with its own arguments. -/
  | verbatim (text : String) (args : List Value)
  /-- A column, or an expression under the name of the column. -/
  | projection (column : String) (term : Option String)
  /-- A key of GROUP BY. -/
  | groupKey (column : String) (term : Option String)
  /-- A key of ORDER BY. -/
  | sortKey (column : String) (term : Option String) (order : SortOrder) (nulls : NullsPlace)
  /-- An assignment to a column; a null without an expression binds nothing. -/
  | assignment (column : String) (value : Value) (term : Option String)
  /-- Fragments with a separator between neighbours. -/
  | joined (separator : String) (items : List Fragment)
  deriving Inhabited

/-- How fragments are written: the dialect, whether every name is quoted, and the expressions of the
projected columns, to which grouping and sort keys may refer. -/
structure Style where
  dialect : Dialect
  quote : Bool
  terms : List (String × Option String) := []

namespace Style

def identifier (s : Style) (name : String) : String := s.dialect.identifier s.quote name

/-- The expression that a column is projected as. -/
def projected (s : Style) (column : String) : Option String := (s.terms.lookup column).join

/-- A grouping or sort key: its own expression, else the projected one unless the dialect lets the
key name the projection, else the column. -/
def key (s : Style) (byAlias : Bool) (column : String) (term : Option String) : String :=
  match term, s.projected column with
  | some t, _ => t
  | none, some t => if byAlias then s.identifier column else t
  | none, none => s.identifier column

/-- A sort key with its direction and the place of its nulls. -/
def sortKey (s : Style) (column : String) (term : Option String) (order : SortOrder)
    (nulls : NullsPlace) : String :=
  let expr := s.key s.dialect.ordersByAlias column term
  let directed := expr ++ (order.keyword.map (" " ++ ·)).getD ""
  if s.dialect.ordersNulls then directed ++ (nulls.keyword.map (" " ++ ·)).getD ""
  else s.dialect.nullsKey expr nulls ++ directed

end Style

namespace Fragment

/-- Fragments with one blank between neighbours. -/
def blankSeparated (items : List Fragment) : Fragment := .joined " " items

/-- Fragments with a comma between neighbours. -/
def commaSeparated (items : List Fragment) : Fragment := .joined ", " items

mutual

/-- The part of a statement that a fragment becomes. -/
def write (s : Style) : Fragment → Statement
  | .word text => .plain text
  | .openParen => .plain "("
  | .closeParen => .plain ")"
  | .column name term => .plain (term.getD (s.identifier name))
  | .target t => .plain (s.dialect.targetText s.quote t)
  | .bound v term => .bound (term.getD "?") v
  | .pattern v wildcards term =>
    .bound (s.dialect.patternText wildcards (term.getD "?")) (s.dialect.patternValue wildcards v)
  | .verbatim text args => ⟨text, args⟩
  | .projection name (some t) => .plain (t ++ s.dialect.aliasSeparator ++ s.identifier name)
  | .projection name none => .plain (s.identifier name)
  | .groupKey name term => .plain (s.key s.dialect.groupsByAlias name term)
  | .sortKey name term order nulls => .plain (s.sortKey name term order nulls)
  | .assignment name v term =>
    if v.isNull && term.isNone then .plain (s.identifier name ++ " = NULL")
    else .bound (s.identifier name ++ " = " ++ term.getD "?") v
  | .joined separator items => .join separator (writeAll s items)

/-- The parts that several fragments become. -/
def writeAll (s : Style) : List Fragment → List Statement
  | [] => []
  | item :: rest => write s item :: writeAll s rest

end

mutual

/-- Structural equality, values compared as values. -/
def equal : Fragment → Fragment → Bool
  | .word a, .word b => a == b
  | .openParen, .openParen => true
  | .closeParen, .closeParen => true
  | .column a s, .column b t => a == b && s == t
  | .target a, .target b => a == b
  | .bound a s, .bound b t => a.equal b && s == t
  | .pattern a s t, .pattern b s' t' => a.equal b && s == s' && t == t'
  | .verbatim a as, .verbatim b bs => a == b && Value.equalAll as bs
  | .projection a s, .projection b t => a == b && s == t
  | .groupKey a s, .groupKey b t => a == b && s == t
  | .sortKey a s o n, .sortKey b t o' n' => a == b && s == t && o == o' && n == n'
  | .assignment a v s, .assignment b w t => a == b && v.equal w && s == t
  | .joined a as, .joined b bs => a == b && equalAll as bs
  | _, _ => false

/-- Equality fragment by fragment. -/
def equalAll : List Fragment → List Fragment → Bool
  | [], [] => true
  | a :: as, b :: bs => equal a b && equalAll as bs
  | _, _ => false

end

/-- The last one of some fragments is an opening parenthesis. -/
def endsOpen (fragments : List Fragment) : Bool :=
  match fragments.getLast? with
  | some .openParen => true
  | _ => false

/-- The fragments with `item` at the end of the joined ones in one of their places; none if there
are no joined ones in that place. -/
def pushAt (item : Fragment) : Nat → List Fragment → Option (List Fragment)
  | _, [] => none
  | 0, .joined separator items :: rest => some (.joined separator (items ++ [item]) :: rest)
  | 0, _ :: _ => none
  | n + 1, f :: rest => (pushAt item n rest).map (f :: ·)

/-- How many fragments are joined in one of the places. -/
def countAt (place : Nat) (fragments : List Fragment) : Option Nat :=
  match fragments[place]? with
  | some (.joined _ items) => some items.length
  | _ => none

theorem writeAll_eq_map (s : Style) (items : List Fragment) :
    writeAll s items = items.map (write s) := by
  induction items with
  | nil => rfl
  | cons f rest ih => simp [writeAll, ih]

end Fragment

end DataCommand
