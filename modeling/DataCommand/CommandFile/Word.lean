import DataCommand.Backend.Basic
import DataCommand.Condition.Basic

/-!
The words of a command file. Each choice has one word, in lower case with underscores, and is
written in exactly that way; only backends have aliases.
-/

namespace DataCommand

/-- The first case that a word names. -/
def ofWord? {α : Type} (word : α → String) (cases : List α) (s : String) : Option α :=
  cases.find? fun a => word a == s

namespace Operation

def all : List Operation := [.select, .insert, .update, .delete]

def word : Operation → String
  | .select => "select"
  | .insert => "insert"
  | .update => "update"
  | .delete => "delete"

end Operation

namespace SortOrder

def all : List SortOrder := [.default, .asc, .desc]

def word : SortOrder → String
  | .default => "default"
  | .asc => "asc"
  | .desc => "desc"

end SortOrder

namespace NullsPlace

def all : List NullsPlace := [.default, .first, .last]

def word : NullsPlace → String
  | .default => "default"
  | .first => "first"
  | .last => "last"

end NullsPlace

namespace OnConflict

def all : List OnConflict := [.plain, .skip, .overwrite]

def word : OnConflict → String
  | .plain => "into"
  | .skip => "ignore"
  | .overwrite => "update"

end OnConflict

namespace Wildcards

def all : List Wildcards := [.both, .left, .right]

def word : Wildcards → String
  | .both => "default"
  | .left => "left"
  | .right => "right"

end Wildcards

namespace Connective

def all : List Connective := [⟨false, false⟩, ⟨true, false⟩, ⟨false, true⟩, ⟨true, true⟩]

def word : Connective → String
  | ⟨false, false⟩ => "and"
  | ⟨true, false⟩ => "or"
  | ⟨false, true⟩ => "and_not"
  | ⟨true, true⟩ => "or_not"

end Connective

namespace Comparison

def all : List Comparison :=
  [.eq, .ne, .gt, .ge, .lt, .le, .like, .notLike, .isNull, .isNotNull, .inList, .notInList,
    .between, .notBetween]

def word : Comparison → String
  | .eq => "eq"
  | .ne => "ne"
  | .gt => "gt"
  | .ge => "ge"
  | .lt => "lt"
  | .le => "le"
  | .like => "like"
  | .notLike => "not_like"
  | .isNull => "is_null"
  | .isNotNull => "is_not_null"
  | .inList => "in"
  | .notInList => "not_in"
  | .between => "between"
  | .notBetween => "not_between"

/-- The name of the comparison in complaints. -/
def label : Comparison → String
  | .eq => "Eq"
  | .ne => "Ne"
  | .gt => "Gt"
  | .ge => "Ge"
  | .lt => "Lt"
  | .le => "Le"
  | .like => "Like"
  | .notLike => "NotLike"
  | .isNull => "IsNull"
  | .isNotNull => "IsNotNull"
  | .inList => "In"
  | .notInList => "NotIn"
  | .between => "Between"
  | .notBetween => "NotBetween"

end Comparison

end DataCommand
