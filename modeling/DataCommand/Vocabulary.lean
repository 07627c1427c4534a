/-!
The vocabulary of commands: the four operations, how rows are sorted, and what an insert does about
conflicts. Where a choice is left to the backend there is nothing to write.
-/

namespace DataCommand

/-- The four commands. -/
inductive Operation where
  | select
  | insert
  | update
  | delete
  deriving DecidableEq, Repr, Inhabited

def Operation.keyword : Operation → String
  | .select => "SELECT"
  | .insert => "INSERT"
  | .update => "UPDATE"
  | .delete => "DELETE"

/-- The direction of sorting. -/
inductive SortOrder where
  | default
  | asc
  | desc
  deriving DecidableEq, Repr, Inhabited

def SortOrder.keyword : SortOrder → Option String
  | .default => none
  | .asc => some "ASC"
  | .desc => some "DESC"

/-- The place of nulls among sorted values. -/
inductive NullsPlace where
  | default
  | first
  | last
  deriving DecidableEq, Repr, Inhabited

def NullsPlace.keyword : NullsPlace → Option String
  | .default => none
  | .first => some "NULLS FIRST"
  | .last => some "NULLS LAST"

/-- What an insert does about rows whose key is taken. -/
inductive OnConflict where
  /-- Nothing special. -/
  | plain
  /-- Leaves them out. -/
  | skip
  /-- Overwrites the stored rows. -/
  | overwrite
  deriving DecidableEq, Repr, Inhabited

end DataCommand
