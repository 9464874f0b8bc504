/-
# The text grid of a table

A grid has a line of column names, a rule, and a line for each row of the longest column. Every
column is as wide as its widest text, counted in characters, and texts are filled up with spaces on
the right. Fields are joined by a bar between two spaces, the dashes of the rule by a cross between
two dashes. Blanks at the end of a line are not written, the rule is. Every line ends in a newline.
-/

import TableQuery.Table.Rows
import TableQuery.Text.Blank
import TableQuery.Value.Text

namespace TableQuery
namespace Table

/-- A column as a grid shows it: the name and the text of each cell. -/
structure TextColumn where
  heading : List Char
  cells : Array (List Char)

namespace TextColumn

/-- The texts of a column. -/
def ofColumn (c : Column) : TextColumn :=
  ⟨c.name.toList, (c.values.map fun v => v.text.toList).toArray⟩

/-- The length of the longest text, the heading among them. -/
def width (c : TextColumn) : Nat :=
  c.cells.foldl (fun w cell => max w cell.length) c.heading.length

/-- The text at a height, empty below the last cell. -/
def cellAt (c : TextColumn) (i : Nat) : List Char := c.cells[i]?.getD []

end TextColumn

/-- A text filled up with spaces on the right. -/
def pad (width : Nat) (text : List Char) : List Char :=
  text ++ List.replicate (width - text.length) ' '

/-- Fields joined by bars, without the blanks at the end. -/
def gridLine (fields : List (List Char)) : List Char :=
  Text.trimEnd (" | ".toList.intercalate fields)

/-- The line below the names: dashes, and a cross between two columns. -/
def gridRule (widths : List Nat) : List Char :=
  "-+-".toList.intercalate (widths.map fun w => List.replicate w '-')

/-- The lines of the grid. -/
def gridLines (t : Table) : List (List Char) :=
  let columns := t.columns.toList.map TextColumn.ofColumn
  let height := (columns.map fun c => c.cells.size).foldl max 0
  gridLine (columns.map fun c => pad c.width c.heading) ::
    gridRule (columns.map TextColumn.width) ::
      (List.range height).map fun i => gridLine (columns.map fun c => pad c.width (c.cellAt i))

/-- The grid of a table. -/
def grid (t : Table) : String := String.ofList (t.gridLines.flatMap (· ++ ['\n']))

end Table
end TableQuery
