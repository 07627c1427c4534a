import DataCommand.Json.Reader

/-!
TOML strings: basic ones with escapes and literal ones without, each on one line or, between triple
quotes, over several. The readers start behind the opening quotes and end behind the closing ones.
-/

namespace DataCommand.Toml

/-- A character that may stand in a string or a comment as it is: no control but the tab. -/
def isPlain (c : Char) : Bool := c = '\t' || (0x20 ≤ c.toNat && c.toNat != 0x7F)

/-- Space and tab. -/
def isSpace (c : Char) : Bool := c = ' ' || c = '\t'

/-- The value of hexadecimal digits. -/
def hexValue? (ds : List Char) : Option Nat :=
  ds.foldl (fun n c => match n, hexDigit? c with
    | some n, some d => some (16 * n + d)
    | _, _ => none) (some 0)

/-- The character with a number, if there is one. -/
def scalarValue? (n : Nat) : Option Char :=
  if n < 0xD800 ∨ (0xDFFF < n ∧ n < 0x110000) then some (Char.ofNat n) else none

/-- The character of an escape, and what follows; the text starts behind the backslash. -/
def escape? : List Char → Option (Char × List Char)
  | 'b' :: rest => some ('\x08', rest)
  | 't' :: rest => some ('\t', rest)
  | 'n' :: rest => some ('\n', rest)
  | 'f' :: rest => some ('\x0c', rest)
  | 'r' :: rest => some ('\r', rest)
  | 'e' :: rest => some ('\x1b', rest)
  | '\x22' :: rest => some ('\x22', rest)
  | '\\' :: rest => some ('\\', rest)
  | 'x' :: a :: b :: rest => ((hexValue? [a, b]).bind scalarValue?).map (·, rest)
  | 'u' :: a :: b :: c :: d :: rest => ((hexValue? [a, b, c, d]).bind scalarValue?).map (·, rest)
  | 'U' :: a :: b :: c :: d :: e :: f :: g :: h :: rest =>
    ((hexValue? [a, b, c, d, e, f, g, h]).bind scalarValue?).map (·, rest)
  | _ => none

/-- The text behind a line break at its front. -/
def lineBreak? : List Char → Option (List Char)
  | '\n' :: rest => some rest
  | '\r' :: '\n' :: rest => some rest
  | _ => none

/-- The text without the blanks and line breaks at its front. -/
def skipLines : List Char → List Char
  | '\n' :: rest => skipLines rest
  | '\r' :: '\n' :: rest => skipLines rest
  | c :: rest => if isSpace c then skipLines rest else c :: rest
  | [] => []

/-- The text behind a backslash that ends a line: the line break and all blanks around it go. -/
def lineEnd? (cs : List Char) : Option (List Char) :=
  (lineBreak? (cs.dropWhile isSpace)).map skipLines

/-- Reads a basic string; `read` holds the characters so far, last one first, and `fuel` is at least
the length of the text. -/
def readBasic : Nat → List Char → List Char → Option (String × List Char)
  | 0, _, _ => none
  | _ + 1, read, '\x22' :: rest => some (String.ofList read.reverse, rest)
  | fuel + 1, read, '\\' :: rest =>
    match escape? rest with
    | some (c, rest') => readBasic fuel (c :: read) rest'
    | none => none
  | fuel + 1, read, c :: rest => if isPlain c then readBasic fuel (c :: read) rest else none
  | _ + 1, _, [] => none

/-- Reads a literal string. -/
def readLiteral (read : List Char) : List Char → Option (String × List Char)
  | [] => none
  | '\x27' :: rest => some (String.ofList read.reverse, rest)
  | c :: rest => if isPlain c then readLiteral (c :: read) rest else none

/-- The closing quotes of a string over several lines, up to two quotes before which belong to the
string: the quotes inside, and what follows. -/
def closing? (q : Char) (cs : List Char) : Option (List Char × List Char) :=
  let quotes := cs.takeWhile (· = q)
  if quotes.length < 3 then none
  else
    let inside := min 2 (quotes.length - 3)
    some (cs.take inside, cs.drop (inside + 3))

/-- Reads a basic string over several lines. -/
def readBasicLines : Nat → List Char → List Char → Option (String × List Char)
  | 0, _, _ => none
  | _ + 1, _, [] => none
  | fuel + 1, read, c :: rest =>
    if c = '\x22' then
      match closing? '\x22' (c :: rest) with
      | some (inside, rest') => some (String.ofList (inside ++ read).reverse, rest')
      | none => readBasicLines fuel (c :: read) rest
    else if c = '\\' then
      match escape? rest with
      | some (d, rest') => readBasicLines fuel (d :: read) rest'
      | none => match lineEnd? rest with
        | some rest' => readBasicLines fuel read rest'
        | none => none
    else match lineBreak? (c :: rest) with
      | some rest' =>
        readBasicLines fuel (if c = '\r' then '\n' :: '\r' :: read else c :: read) rest'
      | none => if isPlain c then readBasicLines fuel (c :: read) rest else none

/-- Reads a literal string over several lines. -/
def readLiteralLines : Nat → List Char → List Char → Option (String × List Char)
  | 0, _, _ => none
  | _ + 1, _, [] => none
  | fuel + 1, read, c :: rest =>
    if c = '\x27' then
      match closing? '\x27' (c :: rest) with
      | some (inside, rest') => some (String.ofList (inside ++ read).reverse, rest')
      | none => readLiteralLines fuel (c :: read) rest
    else match lineBreak? (c :: rest) with
      | some rest' =>
        readLiteralLines fuel (if c = '\r' then '\n' :: '\r' :: read else c :: read) rest'
      | none => if isPlain c then readLiteralLines fuel (c :: read) rest else none

/-- A text without the line break at its front. -/
def afterBreak (cs : List Char) : List Char := (lineBreak? cs).getD cs

/-- Reads a string on one line off the front of a text; such strings can be keys. -/
def readLineString (cs : List Char) : Option (String × List Char) :=
  match cs with
  | '\x22' :: rest => readBasic (rest.length + 1) [] rest
  | '\x27' :: rest => readLiteral [] rest
  | _ => none

/-- Reads a string of any form off the front of a text. -/
def readText (cs : List Char) : Option (String × List Char) :=
  match cs with
  | '\x22' :: '\x22' :: '\x22' :: rest => readBasicLines (rest.length + 1) [] (afterBreak rest)
  | '\x27' :: '\x27' :: '\x27' :: rest => readLiteralLines (rest.length + 1) [] (afterBreak rest)
  | _ => readLineString cs

end DataCommand.Toml
