/-
# Rows

The first column says how many rows a table has. A row holds one cell of each column; where a
column is too short its cell is empty. A table is *rectangular* if all columns have the length of
the first. Only then do the rows hold all of its cells, and only then does validation accept it.

Rows are filtered and reordered column by column, which keeps the cells of a row together.
-/

import TableQuery.QueryError
import TableQuery.Table.Basic

namespace TableQuery
namespace Table

/-- The number of rows: the length of the first column. -/
def rowCount (t : Table) : Nat := (t.columns[0]?.map Column.length).getD 0

/-- The cells at a height, one of each column, empty where a column has ended. -/
def cellsAt (t : Table) (i : Nat) : List Value :=
  t.columns.toList.map fun c => c.values[i]?.getD .null

/-- A row, if there are that many. -/
def row? (t : Table) (i : Nat) : Option (List Value) :=
  if i < t.rowCount then some (t.cellsAt i) else none

/-- All rows from top to bottom. -/
def rows (t : Table) : List (List Value) := (List.range t.rowCount).map t.cellsAt

/-- Whether all columns have the same length. -/
def IsRectangular (t : Table) : Prop := ∀ c ∈ t.columns, c.length = t.rowCount

instance (t : Table) : Decidable t.IsRectangular :=
  inferInstanceAs (Decidable (∀ c ∈ t.columns, _))

/-- Why a column that differs in length from the first is refused. -/
def lengthReason (c : Column) (expected : Nat) : String :=
  "column " ++ c.name ++ " has " ++ toString c.length ++ " rows, expected " ++ toString expected

/-- Refuses a table for the first column that differs in length from the first of all. -/
def validate (t : Table) : Except QueryError Unit :=
  match t.columns.find? fun c => c.length != t.rowCount with
  | some c => .error (.invalidOperation (lengthReason c t.rowCount))
  | none => .ok ()

/-- The cells whose flags are set. Cells without a flag are dropped. -/
def keepFlagged (flags : List Bool) (values : List Value) : List Value :=
  ((values.zip flags).filter (·.2)).map (·.1)

/-- The rows whose flags are set. -/
def filterRows (t : Table) (flags : List Bool) : Table := t.mapColumns (keepFlagged flags)

/-- The cells at the given positions, empty ones past the end. -/
def cellsInOrder (order : List Nat) (values : List Value) : List Value :=
  let cells := values.toArray
  order.map fun i => cells[i]?.getD .null

/-- The rows at the given positions, in that order. -/
def reorderRows (t : Table) (order : List Nat) : Table := t.mapColumns (cellsInOrder order)

@[simp] theorem keepFlagged_nil_left (values : List Value) : keepFlagged [] values = [] := by
  rw [keepFlagged, List.zip_nil_right]
  rfl

@[simp] theorem keepFlagged_nil_right (flags : List Bool) : keepFlagged flags [] = [] := by
  rw [keepFlagged, List.zip_nil_left]
  rfl

@[simp] theorem keepFlagged_cons (flag : Bool) (flags : List Bool) (value : Value)
    (values : List Value) :
    keepFlagged (flag :: flags) (value :: values) =
      if flag then value :: keepFlagged flags values else keepFlagged flags values := by
  cases flag <;> rfl

theorem validate_eq_ok_iff (t : Table) : t.validate = .ok () ↔ t.IsRectangular := by
  unfold validate IsRectangular
  cases h : t.columns.find? fun c => c.length != t.rowCount with
  | none => simpa using h
  | some c =>
    have hc := Array.find?_some h
    have hm := Array.mem_of_find?_eq_some h
    simp only [reduceCtorEq, false_iff]
    exact fun hall => by simp [hall c hm] at hc

theorem getElem?_rows (t : Table) (i : Nat) : t.rows[i]? = t.row? i := by
  unfold rows row?
  split
  · rename_i h
    simp [h]
  · rename_i h
    simp [h]

end Table
end TableQuery
