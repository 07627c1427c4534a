/-!
Variables of the environment as a machine keeps them: one text for each, its name and its value with
an equals sign between them.
-/

namespace DataCommand.Host

/-- A variable that is set. -/
structure Setting where
  name : String
  value : String
  deriving DecidableEq, Repr

namespace Setting

/-- The text that is kept. -/
def text (s : Setting) : String := s.name ++ "=" ++ s.value

/-- The value under a name: what follows the name and an equals sign at the front of the text. So a
name that holds an equals sign itself can reach into the value. -/
def value? (s : Setting) (name : String) : Option String :=
  let front := (name ++ "=").toList
  if front.isPrefixOf s.text.toList then some (String.ofList (s.text.toList.drop front.length))
  else none

end Setting

end DataCommand.Host
