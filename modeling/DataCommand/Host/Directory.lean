import DataCommand.Host.Path
import DataCommand.Host.Setting

/-!
Directories as values. A place is known by the names on the way to it, beginning at the working
directory; a way may leave the working directory upwards, or begin at the root.
-/

namespace DataCommand.Host

/-- The names on the way to a place. -/
abbrev Place := List String

/-- What is at a place. -/
inductive Entry where
  | file (text : String)
  | directory
  deriving DecidableEq, Repr

/-- Everything at places below the working directory and elsewhere, the earliest entry first. -/
abbrev Directory := List (Place × Entry)

namespace Place

/-- The root. -/
def root : Place := ["/"]

/-- The working directory, what lies above it, and the root. -/
def isAnchor (p : Place) : Bool := p == root || p.all (· == "..")

/-- The place where a step leads. -/
def step (p : Place) (name : String) : Place :=
  if name = "." then p
  else if name = ".." then
    if p = root then root else if isAnchor p then p ++ [".."] else p.dropLast
  else p ++ [name]

/-- The place where a path begins. -/
def start (path : String) : Place := if path.startsWith "/" then root else []

end Place

namespace Directory

/-- What is at a place. -/
def entry? (d : Directory) (p : Place) : Option Entry :=
  if p.isAnchor then some .directory else d.lookup p

def isDirectoryAt (d : Directory) (p : Place) : Bool := d.entry? p == some .directory

/-- The place at the end of a way. Each step has to begin in a directory, which then looks for a
name that is not too long. -/
def follow (d : Directory) (p : Place) : List String → Except FileError Place
  | [] => .ok p
  | name :: rest =>
    match d.entry? p with
    | none => .error .notFound
    | some (.file _) => .error .notDirectory
    | some .directory =>
      if maxNameBytes < name.utf8ByteSize then .error .tooLong else d.follow (p.step name) rest

/-- The place where a path leads by some steps. -/
def place (d : Directory) (path : String) (steps : List String) : Except FileError Place :=
  match pathFault? path with
  | some e => .error e
  | none => d.follow (.start path) steps

/-- The text of a file. A slash at the end of a path asks for a directory. -/
def readText (path : String) (d : Directory) : Except FileError String :=
  match d.place path (steps path ++ if endsInSlash path then ["."] else []) with
  | .error e => .error e
  | .ok p => match d.entry? p with
    | none => .error .notFound
    | some .directory => .error .isDirectory
    | some (.file text) => .ok text

/-- The place for something new, which must be free. -/
def freePlace (path : String) (d : Directory) : Except FileError Place :=
  match d.place path (steps path) with
  | .error e => .error e
  | .ok p => match d.entry? p with
    | some _ => .error .exists
    | none => .ok p

/-- Makes one directory. -/
def makeDirectory (path : String) (d : Directory) : Except FileError Unit × Directory :=
  match d.freePlace path with
  | .error e => (.error e, d)
  | .ok p => (.ok (), d ++ [(p, .directory)])

/-- The path leads to a directory. -/
def isDirectory (path : String) (d : Directory) : Bool :=
  match d.place path (steps path) with
  | .error _ => false
  | .ok p => d.isDirectoryAt p

/-- That a directory exists already is no failure. -/
def forgive (path : String) (o : Except FileError Unit × Directory) :
    Except FileError Unit × Directory :=
  match o with
  | (.error .exists, d) => if d.isDirectory path then (.ok (), d) else (.error .exists, d)
  | o => o

/-- Makes a directory, and those above it if they are missing; `fuel` bounds their number. What is
made before something fails stays. -/
def makeChain : Nat → String → Directory → Except FileError Unit × Directory
  | 0, _, d => (.ok (), d)
  | fuel + 1, path, d =>
    match parent? path with
    | none => (.ok (), d)
    | some above =>
      match forgive path (d.makeDirectory path) with
      | (.error .notFound, _) =>
        match makeChain fuel above d with
        | (.error e, d') => (.error e, d')
        | (.ok (), d') => forgive path (d'.makeDirectory path)
      | o => o

/-- Makes a directory with all those above it. -/
def makeDirectories (path : String) (d : Directory) : Except FileError Unit × Directory :=
  makeChain (path.length + 1) path d

/-- The path ends in a name of a directory, as the slash behind it says, and leads to where that
name would be. -/
def namesDirectory (path : String) (d : Directory) : Bool :=
  match (steps path).getLast? with
  | none | some "." | some ".." => false
  | some _ => endsInSlash path && match d.place path (steps path).dropLast with
    | .error _ => false
    | .ok p => d.isDirectoryAt p

/-- Writes a new file, whose name must not end in a slash. -/
def createFile (path text : String) (d : Directory) : Except FileError Unit × Directory :=
  if d.namesDirectory path then (.error .isDirectory, d)
  else match d.freePlace path with
    | .error e => (.error e, d)
    | .ok p => (.ok (), d ++ [(p, .file text)])

/-- A machine whose files and variables are values. -/
def host (settings : List Setting) : Host (StateM Directory) where
  readText path := do return (← get).readText path
  makeDirectories path := modifyGet (makeDirectories path)
  createFile path text := modifyGet (createFile path text)
  lookup name := return settings.findSome? (·.value? name)

/-- The directory of some files, with the directories that their paths pass. -/
def ofFiles (files : List (String × String)) : Directory :=
  files.foldl
    (fun d f =>
      let above := (parent? f.1).getD ""
      (createFile f.1 f.2 (makeDirectories above d).2).2) []

end Directory

end DataCommand.Host
