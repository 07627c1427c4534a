import DataCommand.Text.Join

/-!
Tables in frames of box-drawing characters. Every column is as wide as its widest cell, cells are
aligned to the left with a blank on both sides, a double line follows the head and dashed lines
separate the rows.
-/

namespace DataCommand.Text

/-- The characters of a line across a table. -/
structure Rule where
  left : String
  dash : Char
  cross : String
  right : String

namespace Rule

def top : Rule := ⟨"┌", '─', "┬", "┐"⟩

def afterHead : Rule := ⟨"╞", '═', "╪", "╡"⟩

def betweenRows : Rule := ⟨"├", '╌', "┼", "┤"⟩

def bottom : Rule := ⟨"└", '─', "┴", "┘"⟩

/-- The line over columns of some widths. -/
def line (r : Rule) (widths : List Nat) : String :=
  r.left ++ join r.cross (widths.map fun w => replicate (w + 2) r.dash) ++ r.right

end Rule

/-- A cell, filled up to the width of its column. -/
def cell (width : Nat) (s : String) : String := " " ++ s ++ replicate (width - s.length + 1) ' '

/-- The line of a row. -/
def rowLine (widths : List Nat) (cells : List String) : String :=
  "│" ++ join "┆" ((widths.zip cells).map fun p => cell p.1 p.2) ++ "│"

/-- The width of each column. -/
def columnWidths (head : List String) (rows : List (List String)) : List Nat :=
  rows.foldl (fun widths row => widths.zipWith max (row.map String.length)) (head.map String.length)

/-- A table of a head and rows of as many cells. -/
def boxed (head : List String) (rows : List (List String)) : String :=
  let widths := columnWidths head rows
  let lines := rows.map (rowLine widths)
  join "\n"
    ([Rule.top.line widths, rowLine widths head, Rule.afterHead.line widths] ++
      lines.intersperse (Rule.betweenRows.line widths) ++ [Rule.bottom.line widths])

end DataCommand.Text
