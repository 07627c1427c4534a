import DataCommand.Json.Number
import DataCommand.Value.Uuid

/-!
Reading JSON text. The reader accepts exactly one value with white space around it. Of two entries
with one key the later one counts, and objects come out in the order of their keys.
-/

namespace DataCommand.Json

/-- The white space of JSON. -/
def isGap (c : Char) : Bool := c = ' ' || c = '\n' || c = '\t' || c = '\r'

def skipGap (cs : List Char) : List Char := cs.dropWhile isGap

/-- The value of four hexadecimal digits. -/
def hex4? (a b c d : Char) : Option Nat :=
  match hexDigit? a, hexDigit? b, hexDigit? c, hexDigit? d with
  | some w, some x, some y, some z => some (4096 * w + 256 * x + 16 * y + z)
  | _, _, _, _ => none

/-- The character that a one-letter escape stands for. -/
def simpleEscape? : Char → Option Char
  | '\x22' => some '\x22'
  | '\\' => some '\\'
  | '/' => some '/'
  | 'b' => some '\x08'
  | 'f' => some '\x0c'
  | 'n' => some '\n'
  | 'r' => some '\r'
  | 't' => some '\t'
  | _ => none

/-- The number of a surrogate pair, if the two halves are one. -/
def joinSurrogates (high low : Nat) : Option Nat :=
  if 0xDC00 ≤ low ∧ low < 0xE000 then some (0x10000 + 1024 * (high - 0xD800) + (low - 0xDC00))
  else none

/-- Reads the rest of a string token after its opening quote; `read` holds the characters so far,
last one first. -/
def readString (read : List Char) : List Char → Option (String × List Char)
  | [] => none
  | '\x22' :: rest => some (String.ofList read.reverse, rest)
  | '\\' :: 'u' :: a :: b :: c :: d :: rest =>
    match hex4? a b c d with
    | none => none
    | some n =>
      if 0xD800 ≤ n ∧ n < 0xDC00 then
        match rest with
        | '\\' :: 'u' :: e :: f :: g :: h :: rest' =>
          match (hex4? e f g h).bind (joinSurrogates n) with
          | some m => readString (Char.ofNat m :: read) rest'
          | none => none
        | _ => none
      else if 0xDC00 ≤ n ∧ n < 0xE000 then none
      else readString (Char.ofNat n :: read) rest
  | '\\' :: c :: rest =>
    match simpleEscape? c with
    | some d => readString (d :: read) rest
    | none => none
  | c :: rest => if c.toNat < 0x20 ∨ c = '\\' then none else readString (c :: read) rest

mutual

/-- Reads a value at the front of a text. `fuel` exceeds the length of the text. -/
def readValue : Nat → List Char → Option (Json × List Char)
  | 0, _ => none
  | fuel + 1, cs =>
    match skipGap cs with
    | 'n' :: 'u' :: 'l' :: 'l' :: rest => some (.null, rest)
    | 't' :: 'r' :: 'u' :: 'e' :: rest => some (.bool true, rest)
    | 'f' :: 'a' :: 'l' :: 's' :: 'e' :: rest => some (.bool false, rest)
    | '\x22' :: rest => (readString [] rest).map fun r => (.str r.1, r.2)
    | '[' :: rest =>
      match skipGap rest with
      | ']' :: rest' => some (.arr [], rest')
      | _ => (readItems fuel [] rest).map fun r => (.arr r.1, r.2)
    | '\x7b' :: rest =>
      match skipGap rest with
      | '\x7d' :: rest' => some (.obj [], rest')
      | _ => (readEntries fuel [] rest).map fun r => (.obj r.1, r.2)
    | cs' => readNumber cs'

/-- Reads items up to the closing bracket; `read` holds the items so far, last one first. -/
def readItems : Nat → List Json → List Char → Option (List Json × List Char)
  | 0, _, _ => none
  | fuel + 1, read, cs =>
    match readValue fuel cs with
    | none => none
    | some (j, rest) =>
      match skipGap rest with
      | ',' :: rest' => readItems fuel (j :: read) rest'
      | ']' :: rest' => some ((j :: read).reverse, rest')
      | _ => none

/-- Reads entries up to the closing brace into the entries so far. -/
def readEntries :
    Nat → List (String × Json) → List Char → Option (List (String × Json) × List Char)
  | 0, _, _ => none
  | fuel + 1, read, cs =>
    match skipGap cs with
    | '\x22' :: afterQuote =>
      match readString [] afterQuote with
      | none => none
      | some (key, afterKey) =>
        match skipGap afterKey with
        | ':' :: afterColon =>
          match readValue fuel afterColon with
          | none => none
          | some (j, rest) =>
            match skipGap rest with
            | ',' :: rest' => readEntries fuel (put key j read) rest'
            | '\x7d' :: rest' => some (put key j read, rest')
            | _ => none
        | _ => none
    | _ => none

end

/-- The value that a JSON text denotes. -/
def ofText? (s : String) : Option Json :=
  match readValue (2 * s.length + 2) s.toList with
  | some (j, rest) => if (skipGap rest).isEmpty then some j else none
  | none => none

end DataCommand.Json
