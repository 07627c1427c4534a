/-!
What the command line needs of the machine that it runs on, and what may go wrong there. The
operations belong to some monad, so that they may work on a real machine or on a value.
-/

namespace DataCommand

/-- What an operation on files fails with. -/
inductive FileError where
  | notFound
  | exists
  | notDirectory
  | isDirectory
  /-- A path, or one name in it, has too many bytes. -/
  | tooLong
  /-- A path holds the character that ends texts outside the program. -/
  | cutOff
  | other (text : String)
  deriving DecidableEq, Repr

/-- The wording of an error, with its number. -/
def FileError.message : FileError → String
  | .notFound => "No such file or directory (os error 2)"
  | .exists => "File exists (os error 17)"
  | .notDirectory => "Not a directory (os error 20)"
  | .isDirectory => "Is a directory (os error 21)"
  | .tooLong => "File name too long (os error 36)"
  | .cutOff => "file name contained an unexpected NUL byte"
  | .other text => text

/-- Files, and the variables of the environment. -/
structure Host (m : Type → Type) where
  readText : String → m (Except FileError String)
  /-- Makes a directory with all directories above it, if they are not there yet. -/
  makeDirectories : String → m (Except FileError Unit)
  /-- Writes a file that must not be there yet. -/
  createFile : String → String → m (Except FileError Unit)
  lookup : String → m (Option String)

end DataCommand
