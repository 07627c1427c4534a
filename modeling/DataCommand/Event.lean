import DataCommand.Statement
import DataCommand.Text.Cut
import DataCommand.Text.Quoted
import DataCommand.Vocabulary

/-!
Log events around the rendering of commands, as named fields of text.
-/

namespace DataCommand

inductive Event where
  /-- A command was rendered. -/
  | rendered (operation : Operation) (dialect : String) (statement : Statement)
  /-- An insert became a plain one, since the dialect has no form for its conflicts. -/
  | weakened (dialect : String) (onConflict : OnConflict) (primaryKey : List String)
  /-- A command file is about to be rendered. -/
  | renderingFile (file backend : String) (operation : Operation)

namespace Event

/-- How many bytes of a statement an event shows. -/
def shownBytes : Nat := 200

def conflictName : OnConflict → String
  | .plain => "Into"
  | .skip => "Ignore"
  | .overwrite => "Update"

/-- The event as named fields. -/
def fields : Event → List (String × String)
  | .rendered operation dialect statement =>
    [("target", "cmdforge.render"), ("level", "DEBUG"), ("message", "rendered command"),
      ("operation", operation.keyword), ("dialect", dialect),
      ("arg_count", toString statement.args.length),
      ("sql", Text.cut shownBytes statement.text)]
  | .weakened dialect onConflict primaryKey =>
    [("target", "cmdforge.insert"), ("level", "WARN"),
      ("message", "conflict strategy not supported, rendering plain insert"),
      ("dialect", dialect), ("strategy", conflictName onConflict),
      ("primary_key", "[" ++ Text.join ", " (primaryKey.map Text.debugQuoted) ++ "]")]
  | .renderingFile file backend operation =>
    [("target", "cmdforge.cli"), ("level", "DEBUG"), ("message", "rendering command file"),
      ("file", file), ("dialect", backend), ("operation", operation.keyword)]

end Event

end DataCommand
