import DataCommand.Text.Join
import DataCommand.Value.Basic

/-!
Command text with the values of its placeholders. Statements are put together from parts; the values
of a whole are those of its parts, in the same order as the texts.
-/

namespace DataCommand

/-- A command, or a part of one. -/
structure Statement where
  text : String
  args : Arguments := []
  deriving Inhabited

namespace Statement

instance : Append Statement := ⟨fun s t => ⟨s.text ++ t.text, s.args ++ t.args⟩⟩

/-- Text without placeholders. -/
def plain (text : String) : Statement := ⟨text, []⟩

/-- The text `text` for one bound value. -/
def bound (text : String) (v : Value) : Statement := ⟨text, [v]⟩

/-- The parts in order, with a separator between each two neighbours. -/
def join (separator : String) (parts : List Statement) : Statement :=
  ⟨Text.join separator (parts.map text), parts.flatMap args⟩

/-- The statement behind values that were bound before. -/
def after (earlier : Arguments) (s : Statement) : Statement := ⟨s.text, earlier ++ s.args⟩

/-- The statement as a JSON object. -/
def toJson (s : Statement) : Json := .obj [("sql", .str s.text), ("args", s.args.toJson)]

@[simp]
theorem text_append (s t : Statement) : (s ++ t).text = s.text ++ t.text := rfl

@[simp]
theorem args_append (s t : Statement) : (s ++ t).args = s.args ++ t.args := rfl

end Statement

end DataCommand
