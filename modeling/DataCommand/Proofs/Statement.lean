import DataCommand.Statement

/-!
Statements under concatenation. They form a monoid, in which the text without anything in it is
neutral, and values that were bound before stay in front.
-/

namespace DataCommand.Statement

theorem ext {s t : Statement} (htext : s.text = t.text) (hargs : s.args = t.args) : s = t := by
  cases s
  cases t
  simp_all

@[simp]
theorem text_plain (text : String) : (plain text).text = text := rfl

@[simp]
theorem args_plain (text : String) : (plain text).args = [] := rfl

@[simp]
theorem text_after (earlier : Arguments) (s : Statement) : (s.after earlier).text = s.text := rfl

@[simp]
theorem args_after (earlier : Arguments) (s : Statement) :
    (s.after earlier).args = earlier ++ s.args := rfl

theorem append_assoc (s t u : Statement) : s ++ t ++ u = s ++ (t ++ u) :=
  ext (by simp [String.append_assoc]) (by simp)

@[simp]
theorem append_plain_empty (s : Statement) : s ++ plain "" = s := ext (by simp) (by simp)

theorem join_singleton (separator : String) (s : Statement) : join separator [s] = s :=
  ext rfl (by simp [join])

theorem join_cons_cons (separator : String) (s t : Statement) (rest : List Statement) :
    join separator (s :: t :: rest) = s ++ (plain separator ++ join separator (t :: rest)) :=
  ext (by simp [join, Text.join, String.append_assoc]) (by simp [join])

/-- Texts without placeholders are joined to such a text. -/
theorem join_plain (separator : String) (texts : List String) :
    join separator (texts.map plain) = plain (Text.join separator texts) :=
  ext (by simp [join, Function.comp_def]) (by simp [join])

theorem after_append (earlier : Arguments) (s t : Statement) :
    (s ++ t).after earlier = s.after earlier ++ t := ext (by simp) (by simp)

end DataCommand.Statement
