import DataCommand.Text.Hidden

/-!
Two quoted forms of a text. `jsonQuoted` is the string token of JSON: quote, backslash and the
controls below `U+0020` are escaped, all else stands for itself. `debugQuoted` is the form of log
fields: hidden characters are written as `\u` and their number in braces.
-/

namespace DataCommand.Text

/-- Lower-case hexadecimal digits of a number. -/
def hex (n : Nat) : List Char := Nat.toDigits 16 n

/-- One character inside a JSON string. -/
def jsonEscape (c : Char) : List Char :=
  if c = '\x22' then ['\\', '\x22']
  else if c = '\\' then ['\\', '\\']
  else if c = '\x08' then ['\\', 'b']
  else if c = '\x0c' then ['\\', 'f']
  else if c = '\n' then ['\\', 'n']
  else if c = '\r' then ['\\', 'r']
  else if c = '\t' then ['\\', 't']
  else if c.toNat < 0x20 then
    ['\\', 'u', '0', '0', Nat.digitChar (c.toNat / 16), Nat.digitChar (c.toNat % 16)]
  else [c]

/-- The JSON string token of a text. -/
def jsonQuoted (s : String) : String :=
  String.ofList ('\x22' :: (s.toList.flatMap jsonEscape ++ ['\x22']))

/-- One character inside a quoted debug text. -/
def debugEscape (c : Char) : List Char :=
  if c = '\x00' then ['\\', '0']
  else if c = '\t' then ['\\', 't']
  else if c = '\r' then ['\\', 'r']
  else if c = '\n' then ['\\', 'n']
  else if c = '\x22' then ['\\', '\x22']
  else if c = '\\' then ['\\', '\\']
  else if isHidden c then ['\\', 'u', '\x7b'] ++ hex c.toNat ++ ['\x7d']
  else [c]

/-- The quoted debug form of a text. -/
def debugQuoted (s : String) : String :=
  String.ofList ('\x22' :: (s.toList.flatMap debugEscape ++ ['\x22']))

end DataCommand.Text
