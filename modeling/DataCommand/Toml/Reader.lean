import DataCommand.Toml.Quoted
import DataCommand.Toml.Scalar
import DataCommand.Toml.Table

/-!
Reading TOML documents. A document is a sequence of lines: entries, headers, comments, nothing.
Arrays and inline tables may run over several lines and nest up to a limit.
-/

namespace DataCommand.Toml

/-- How deep arrays and inline tables may nest. -/
def maxDepth : Nat := 80

/-- A character of a bare key. -/
def isBare (c : Char) : Bool := c.isAlphanum || c = '_' || c = '-'

/-- A character of a scalar without quotes. -/
def isScalarChar (c : Char) : Bool := isBare c || c = '+' || c = '.' || c = ':'

def skipSpace (cs : List Char) : List Char := cs.dropWhile isSpace

/-- The text behind a comment at its front, up to the end of the line. -/
def afterComment (cs : List Char) : List Char :=
  match cs with
  | '#' :: rest => rest.dropWhile isPlain
  | _ => cs

/-- The text without the blanks, comments and line breaks at its front; `fuel` is at least its
length. -/
def skipFill : Nat → List Char → List Char
  | 0, cs => cs
  | fuel + 1, cs =>
    match lineBreak? (afterComment (skipSpace cs)) with
    | some rest => skipFill fuel rest
    | none => skipSpace cs

/-- Reads one part of a key. -/
def readKeyPart (cs : List Char) : Option (String × List Char) :=
  match readLineString cs with
  | some r => some r
  | none =>
    let name := cs.takeWhile isBare
    if name.isEmpty then none else some (String.ofList name, cs.dropWhile isBare)

/-- Reads a key: parts with dots between them, and the blanks behind. -/
def readPath : Nat → List Char → Option (List String × List Char)
  | 0, _ => none
  | fuel + 1, cs =>
    match readKeyPart (skipSpace cs) with
    | none => none
    | some (part, rest) =>
      match skipSpace rest with
      | '.' :: rest' => (readPath fuel rest').map fun r => (part :: r.1, r.2)
      | rest' => some ([part], rest')

/-- Reads a scalar without quotes. One blank may stand between a date and a time. -/
def readScalar (cs : List Char) : Option (Item × List Char) :=
  let token := cs.takeWhile isScalarChar
  let rest := cs.dropWhile isScalarChar
  let split : List Char × List Char :=
    match date? token, rest with
    | some (_, []), ' ' :: d :: more =>
      if d.isDigit then
        (token ++ ' ' :: (d :: more).takeWhile isScalarChar, (d :: more).dropWhile isScalarChar)
      else (token, rest)
    | _, _ => (token, rest)
  (scalar? split.1).map (·, split.2)

mutual

/-- Reads a value; `depth` more levels may be opened, and `fuel` exceeds the length of the text. -/
def readItem : Nat → Nat → List Char → Option (Item × List Char)
  | 0, _, _ => none
  | fuel + 1, depth, cs =>
    match cs with
    | '[' :: rest =>
      match depth with
      | 0 => none
      | depth + 1 => (readArray fuel depth [] rest).map fun r => (.array r.1, r.2)
    | '\x7b' :: rest =>
      match depth with
      | 0 => none
      | depth + 1 =>
        (readInline fuel depth [] rest).map fun r => (.table (entriesToItems r.1), r.2)
    | c :: _ =>
      if c = '\x22' ∨ c = '\x27' then (readText cs).map fun r => (.str r.1, r.2)
      else readScalar cs
    | [] => none

/-- Reads items up to the closing bracket; `read` holds the items so far, last one first. -/
def readArray : Nat → Nat → List Item → List Char → Option (List Item × List Char)
  | 0, _, _, _ => none
  | fuel + 1, depth, read, cs =>
    match skipFill cs.length cs with
    | ']' :: rest => some (read.reverse, rest)
    | cs' =>
      match readItem fuel depth cs' with
      | none => none
      | some (v, rest) =>
        match skipFill rest.length rest with
        | ',' :: rest' => readArray fuel depth (v :: read) rest'
        | ']' :: rest' => some ((v :: read).reverse, rest')
        | _ => none

/-- Reads entries up to the closing brace, on top of the entries so far. -/
def readInline : Nat → Nat → Entries → List Char → Option (Entries × List Char)
  | 0, _, _, _ => none
  | fuel + 1, depth, read, cs =>
    match skipFill cs.length cs with
    | '\x7d' :: rest => some (read, rest)
    | cs' =>
      match readPath cs'.length cs' with
      | some (path, '=' :: afterSign) =>
        match readItem fuel depth (skipSpace afterSign) with
        | none => none
        | some (v, rest) =>
          match bindKey v path read, skipFill rest.length rest with
          | some read', ',' :: rest' => readInline fuel depth read' rest'
          | some read', '\x7d' :: rest' => some (read', rest')
          | _, _ => none
      | _ => none

end

/-- Reads one line that says something. -/
def readLine (cs : List Char) : Option (Line × List Char) :=
  match cs with
  | '[' :: '[' :: rest =>
    match readPath rest.length rest with
    | some (path, ']' :: ']' :: rest') => some (.nextHeader path, rest')
    | _ => none
  | '[' :: rest =>
    match readPath rest.length rest with
    | some (path, ']' :: rest') => some (.header path, rest')
    | _ => none
  | _ =>
    match readPath cs.length cs with
    | some (path, '=' :: rest) =>
      (readItem (2 * rest.length + 2) maxDepth (skipSpace rest)).map fun r =>
        (.entry path r.1, r.2)
    | _ => none

/-- Reads all lines of a document. -/
def readLines : Nat → List Char → Option (List Line)
  | 0, _ => none
  | fuel + 1, cs =>
    match skipFill cs.length cs with
    | [] => some []
    | '#' :: rest => if (rest.dropWhile isPlain).isEmpty then some [] else none
    | cs' =>
      match readLine cs' with
      | none => none
      | some (l, rest) =>
        match afterComment (skipSpace rest) with
        | [] => some [l]
        | rest' => match lineBreak? rest' with
          | some rest'' => (readLines fuel rest'').map (l :: ·)
          | none => none

/-- The entries of a document; a mark of the byte order at its start does not count. -/
def document? (s : String) : Option (List (String × Item)) :=
  let cs := match s.toList with
    | '\ufeff' :: rest => rest
    | cs => cs
  (readLines (cs.length + 1) cs).bind fun lines => collectLines lines {}

end DataCommand.Toml
