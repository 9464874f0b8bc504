/-
# Conditions

A condition compares the cells of one column with a threshold. It gives each row a flag, and a
filter keeps the rows whose flag is set. Where the table has no such column there are no flags, so
no row is kept, and a diagnostic says why.

A condition that stands alone describes the filter as a table: one column of flags for the table
registered as the selection.
-/

import TableQuery.Catalog
import TableQuery.Comparison
import TableQuery.Text.Quoted
import TableQuery.Value.Text

namespace TableQuery

/-- A comparison of the cells of a column with a threshold. -/
structure Condition where
  column : String
  comparison : Comparison
  threshold : Value

namespace Condition

instance : BEq Condition :=
  ⟨fun a b => a.column == b.column && a.comparison == b.comparison && a.threshold == b.threshold⟩

/-- A threshold as SQL shows it: a string in quotes, anything else as its text. -/
def thresholdSql : Value → String
  | .str s => String.ofList (Text.quote s.toList)
  | v => v.text

/-- The SQL text of a condition. -/
def sql (c : Condition) : String :=
  c.column ++ " " ++ c.comparison.symbol ++ " " ++ thresholdSql c.threshold

/-- The SQL text of the filter by a condition. -/
def filterSql (c : Condition) : String := "WHERE " ++ c.sql

/-- Whether a cell satisfies the condition. -/
def test (c : Condition) (cell : Value) : Bool := c.comparison.test cell c.threshold

/-- The name of the column of flags. -/
def classifierColumn : String := "classifier"

/-- A flag for each cell of the column, and what was missed. `source` is the table's name in the
diagnostic. -/
def classify (c : Condition) (catalog : Catalog) (source : String) (t : Table) :
    Logged (List Bool × Option Diagnostic) :=
  match t.column? c.column with
  | some cells => return (cells.map c.test, none)
  | none => do
    let d ← catalog.report (.missingColumn source c.column)
    return ([], some d)

/-- The rows of a table that satisfy the condition. -/
def filter (c : Condition) (catalog : Catalog) (source : String) (t : Table) :
    Logged Evaluation := do
  let (flags, d?) ← c.classify catalog source t
  let kept := t.filterRows flags
  Logged.send .trace ("filter " ++ c.sql ++ ": " ++ toString kept.rowCount ++ " of " ++
    toString t.rowCount ++ " rows kept")
  return (Evaluation.ofTable kept).withOptional d?

/-- The rows of the selection that satisfy the condition. -/
def filterSelection (c : Condition) (catalog : Catalog) : Logged Evaluation := do
  (← catalog.fetch Catalog.selection).andThen (c.filter catalog Catalog.selection)

/-- The flags of the selection as a table. -/
def classifySelection (c : Condition) (catalog : Catalog) : Logged Evaluation := do
  (← catalog.fetch Catalog.selection).andThen fun t => do
    let (flags, d?) ← c.classify catalog Catalog.selection t
    return (Evaluation.ofTable (Table.empty.withColumn classifierColumn flags)).withOptional d?

end Condition
end TableQuery
