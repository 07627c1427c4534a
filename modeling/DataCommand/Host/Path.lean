import DataCommand.Host.Basic
import DataCommand.Text.Join
import DataCommand.Text.Split

/-!
Paths as they are given. Empty pieces between slashes do not count, and neither do single dots
except at the front of a path; the parent of a path is the start of its text up to the piece before
its last one that counts. Paths and names have limits in bytes.
-/

namespace DataCommand.Host

/-- The piece at an index counts as a component of a path. -/
def counts (index : Nat) (piece : String) : Bool :=
  piece != "" && (piece != "." || index == 0)

/-- The text of a path cut in front of its last component, and of everything before that which does
not count; none for a path without components. -/
def parent? (path : String) : Option String :=
  let pieces := Text.pieces '/' path
  match ((pieces.zipIdx.filter fun p => counts p.2 p.1).map (·.2)).reverse with
  | [] => none
  | [_] => some (if path.startsWith "/" then "/" else "")
  | _ :: i :: _ => some (Text.join "/" (pieces.take (i + 1)))

/-- The steps of a path: its pieces but the empty ones. -/
def steps (path : String) : List String := (Text.pieces '/' path).filter (· != "")

/-- The path ends in a slash. -/
def endsInSlash (path : String) : Bool := path.endsWith "/"

/-- How many bytes a path may have. -/
def maxPathBytes : Nat := 4095

/-- How many bytes a name in a path may have. -/
def maxNameBytes : Nat := 255

/-- What is wrong with a path wherever it may lead. -/
def pathFault? (path : String) : Option FileError :=
  if path.contains '\x00' then some .cutOff
  else if maxPathBytes < path.utf8ByteSize then some .tooLong
  else if path = "" then some .notFound
  else none

end DataCommand.Host
