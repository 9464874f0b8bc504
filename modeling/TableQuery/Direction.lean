/-
# Directions

A direction sorts rows by the cells of one column. Ascending order is stable: rows with equal cells
stay in the order they had. Descending order is the ascending one read backwards, so there they
change places. Where the table has no such column the rows stay as they are, and a diagnostic says
why.

A direction that stands alone describes the sorting as a table: one column of row positions for the
table registered as the selection.
-/

import TableQuery.Catalog
import TableQuery.Value.Order

namespace TableQuery

/-- Smallest first or largest first. -/
inductive SortOrder where
  | ascending
  | descending
  deriving DecidableEq, Repr

namespace SortOrder

/-- Ascending unless said otherwise. -/
instance : Inhabited SortOrder := ⟨ascending⟩

/-- The SQL keyword of an order. -/
def keyword : SortOrder → String
  | ascending => "ASC"
  | descending => "DESC"

end SortOrder

/-- A column to sort by, and the order. -/
structure Direction where
  column : String
  order : SortOrder
  deriving DecidableEq, Repr

namespace Direction

/-- The SQL text of a direction. -/
def sql (d : Direction) : String := d.column ++ " " ++ d.order.keyword

/-- The SQL text of the sorting by a direction. -/
def sortSql (d : Direction) : String := "ORDER BY " ++ d.sql

/-- The name of the column of row positions. -/
def orderColumn : String := "order"

/-- The positions of cells from the smallest to the largest, equal ones from top to bottom. -/
def ascendingPositions (cells : List Value) : List Nat :=
  (cells.zipIdx.mergeSort fun a b => (a.1.sortCompare b.1).isLE).map (·.2)

/-- The positions of cells in the order of the direction. -/
def positions (d : Direction) (cells : List Value) : List Nat :=
  match d.order with
  | .ascending => ascendingPositions cells
  | .descending => (ascendingPositions cells).reverse

/-- The row positions in the order of the direction, and what was missed. `source` is the table's
name in the diagnostic. -/
def permutation (d : Direction) (catalog : Catalog) (source : String) (t : Table) :
    Logged (List Nat × Option Diagnostic) :=
  match t.column? d.column with
  | some cells => return (d.positions cells, none)
  | none => do
    let diagnostic ← catalog.report (.missingColumn source d.column)
    return (List.range t.rowCount, some diagnostic)

/-- The rows of a table in the order of the direction. -/
def sort (d : Direction) (catalog : Catalog) (source : String) (t : Table) :
    Logged Evaluation := do
  let (order, diagnostic?) ← d.permutation catalog source t
  Logged.send .trace ("sort " ++ d.sql ++ ": " ++ toString order.length ++ " rows")
  return (Evaluation.ofTable (t.reorderRows order)).withOptional diagnostic?

/-- The rows of the selection in the order of the direction. -/
def sortSelection (d : Direction) (catalog : Catalog) : Logged Evaluation := do
  (← catalog.fetch Catalog.selection).andThen (d.sort catalog Catalog.selection)

/-- The row positions of the selection as a table. -/
def orderSelection (d : Direction) (catalog : Catalog) : Logged Evaluation := do
  (← catalog.fetch Catalog.selection).andThen fun t => do
    let (order, diagnostic?) ← d.permutation catalog Catalog.selection t
    let positions := order.map Int64.ofNat
    return (Evaluation.ofTable (Table.empty.withColumn orderColumn positions)).withOptional
      diagnostic?

end Direction
end TableQuery
