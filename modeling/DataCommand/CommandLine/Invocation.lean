import DataCommand.Backend.Basic

/-!
The arguments of the command line. They are read from left to right, and the first one that is wrong
decides; a request for help ends the reading.
-/

namespace DataCommand.CommandLine

/-- What help is about. -/
inductive Topic where
  | general
  | render
  | init
  | overview
  deriving DecidableEq, Repr

/-- How a command file is to be rendered. -/
structure RenderOptions where
  file : String
  /-- The backend instead of the one in the file. -/
  backend : Option Backend
  /-- Every name is quoted, whatever the file says. -/
  quote : Bool
  json : Bool
  deriving DecidableEq, Repr

/-- What is asked for. -/
inductive Invocation where
  | help (topic : Topic)
  | render (options : RenderOptions)
  /-- Write a template. -/
  | init (file : String)
  /-- List the backends. -/
  | overview
  deriving DecidableEq, Repr

/-- What is wrong with arguments. -/
inductive UsageFault where
  | unknownCommand (word : String)
  | unknownTopic (word : String)
  | unknownArgument (word : String)
  | extraArgument (word : String)
  | noBackend
  | badBackend (e : CommandError)
  | noFile
  deriving DecidableEq, Repr

/-- The wording of a fault. -/
def UsageFault.message : UsageFault → String
  | .unknownCommand word => "unknown command: " ++ word
  | .unknownTopic word => "unknown help topic: " ++ word
  | .unknownArgument word => "unknown argument: " ++ word
  | .extraArgument word => "unexpected extra argument: " ++ word
  | .noBackend => "--dialect requires a value"
  | .badBackend e => "invalid --dialect: " ++ e.message
  | .noFile => "render requires a command file"

/-- An argument that asks for help. -/
def isHelp (word : String) : Bool := word == "-h" || word == "--help"

/-- An argument that looks like an option. -/
def isOption (word : String) : Bool := word.toList.head? == some '-'

/-- The start of an option that carries a name in the same argument. -/
def backendMark : List Char := "--dialect=".toList

/-- What follows a mark, and all its repetitions, at the start of a text; `fuel` bounds their
number. -/
def dropMarks (mark : List Char) : Nat → List Char → List Char
  | 0, cs => cs
  | fuel + 1, cs =>
    if mark.isPrefixOf cs then dropMarks mark fuel (cs.drop mark.length) else cs

/-- The name in an argument that carries one. -/
def inlineName (word : String) : String :=
  String.ofList (dropMarks backendMark word.length word.toList)

/-- The backend that an option names. -/
def namedBackend (name : String) : Except UsageFault Backend :=
  (Backend.parse name).mapError .badBackend

/-- The options read so far, before it is certain that there is a file. -/
structure RenderDraft where
  file : Option String := none
  backend : Option Backend := none
  quote : Bool := false
  json : Bool := false

/-- The draft as options. -/
def RenderDraft.finish (r : RenderDraft) : Except UsageFault Invocation :=
  match r.file with
  | some file => .ok (.render { file, backend := r.backend, quote := r.quote, json := r.json })
  | none => .error .noFile

/-- Reads the arguments of `render`. -/
def readRender (r : RenderDraft) : List String → Except UsageFault Invocation
  | [] => r.finish
  | word :: rest =>
    if isHelp word then .ok (.help .render)
    else if word = "--dialect" ∨ word = "-d" then
      match rest with
      | [] => .error .noBackend
      | name :: rest' => match namedBackend name with
        | .error e => .error e
        | .ok backend => readRender { r with backend := some backend } rest'
    else if backendMark.isPrefixOf word.toList then
      match namedBackend (inlineName word) with
      | .error e => .error e
      | .ok backend => readRender { r with backend := some backend } rest
    else if word = "--quote" then readRender { r with quote := true } rest
    else if word = "--json" then readRender { r with json := true } rest
    else if isOption word then .error (.unknownArgument word)
    else if r.file.isSome then .error (.extraArgument word)
    else readRender { r with file := some word } rest

/-- The file that a template goes to unless another one is named. -/
def templateFile : String := "command.toml"

/-- Reads the arguments of `init`. -/
def readInit (file : Option String) : List String → Except UsageFault Invocation
  | [] => .ok (.init (file.getD templateFile))
  | word :: rest =>
    if isHelp word then .ok (.help .init)
    else if isOption word then .error (.unknownArgument word)
    else if file.isSome then .error (.extraArgument word)
    else readInit (some word) rest

/-- Reads the argument of `help`; further ones do not count. -/
def readHelp : List String → Except UsageFault Invocation
  | [] => .ok (.help .general)
  | "render" :: _ => .ok (.help .render)
  | "init" :: _ => .ok (.help .init)
  | "dialects" :: _ => .ok (.help .overview)
  | word :: _ => .error (.unknownTopic word)

/-- Reads the argument of `dialects`; further ones do not count. -/
def readOverview : List String → Except UsageFault Invocation
  | [] => .ok .overview
  | word :: _ => if isHelp word then .ok (.help .overview) else .error (.unknownArgument word)

/-- Reads the arguments behind the name of the program. -/
def parse : List String → Except UsageFault Invocation
  | [] => .ok (.help .general)
  | word :: rest =>
    if isHelp word then .ok (.help .general)
    else match word with
      | "help" => readHelp rest
      | "render" => readRender {} rest
      | "init" => readInit none rest
      | "dialects" => readOverview rest
      | _ => .error (.unknownCommand word)

end DataCommand.CommandLine
