/-
# The rows that sorting keeps

A table may have columns of different lengths. The first one says how many rows there are, with
empty cells where another column has ended, but sorting takes its positions from the key column. So
it orders the rows down to the height at which the key ends (`Direction.rows_arrange_perm`). The
rows below that height are lost, though sorting without a key column would keep them, and a key that
goes on below the last row adds rows.

Hence sorting permutes the rows exactly if the key column, where there is one, has a cell for each
row and no more (`Direction.sort_permutes_iff`).
-/

import TableQuery.Proofs.Direction.Positions

namespace TableQuery
namespace Direction

variable {t : Table}

/-- The height at which the key column ends, and that of the table where there is no such column. -/
def keyHeight (d : Direction) (t : Table) : ℕ :=
  ((t.column? d.column).map List.length).getD t.rowCount

/-- Sorting takes each position above the end of the key once. -/
theorem rowOrder_perm (d : Direction) (t : Table) :
    (d.rowOrder t).Perm (List.range (d.keyHeight t)) := by
  rw [rowOrder, keyHeight]
  cases t.column? d.column with
  | none => exact List.Perm.refl _
  | some cells =>
    have hpositions := d.order.fromLeast_perm (ascendingPositions cells)
    rw [← positions_eq] at hpositions
    exact hpositions.trans (isStableSort_ascendingPositions cells).perm

theorem rowCount_arrange_eq_keyHeight (d : Direction) (t : Table) :
    (d.arrange t).rowCount = d.keyHeight t := by
  rw [rowCount_arrange, (d.rowOrder_perm t).length_eq, List.length_range]

/-- **The rows of a sorted table are those above the end of the key,** each of them once. -/
theorem rows_arrange_perm (d : Direction) (t : Table) :
    (d.arrange t).rows.Perm ((List.range (d.keyHeight t)).map t.cellsAt) := by
  rw [rows_arrange]
  exact (d.rowOrder_perm t).map _

/-- A key as long as the table leaves the number of rows as it is, and so does a missing one. -/
theorem keyHeight_eq_rowCount_iff (d : Direction) (t : Table) :
    d.keyHeight t = t.rowCount ↔
      ∀ cells, t.column? d.column = some cells → cells.length = t.rowCount := by
  rw [keyHeight]
  cases t.column? d.column <;> simp

/-- **Sorting keeps the rows above the end of the key,** on every table and in both orders. So it is
a permutation of the rows exactly if there is no key column or that one is as long as the table. -/
theorem sort_permutes_iff (d : Direction) (catalog : Catalog) (source : String) (t : Table) :
    let sorted := (d.sort catalog source t).value.table
    (sorted.rowCount = d.keyHeight t ∧
      sorted.rows.Perm ((List.range (d.keyHeight t)).map t.cellsAt)) ∧
    (sorted.rowCount = t.rowCount ∧ sorted.rows.Perm t.rows ↔
      ∀ cells, t.column? d.column = some cells → cells.length = t.rowCount) := by
  intro sorted
  have hsorted : sorted = d.arrange t := congrArg Evaluation.table (d.value_sort catalog source t)
  have hcount := d.rowCount_arrange_eq_keyHeight t
  have hperm := d.rows_arrange_perm t
  rw [hsorted, ← keyHeight_eq_rowCount_iff]
  refine ⟨⟨hcount, hperm⟩, fun h => hcount.symm.trans h.1, fun h => ?_⟩
  rw [h] at hcount hperm
  exact ⟨hcount, hperm⟩

/-- One row, and a key column that ends above it. -/
def keyless : Table := .ofColumns [⟨"id", [.str "a"]⟩, ⟨"key", []⟩]

/-- Sorting by the key loses the row. -/
theorem sort_loses_row :
    let d : Direction := ⟨"key", .ascending⟩
    let sorted := (d.sort (.empty {}) "t" keyless).value.table
    keyless.rowCount = 1 ∧ keyless.rows = [[.str "a", .null]] ∧
    sorted.rowCount = 0 ∧ sorted.rows = [] := by
  intro d sorted
  have hcolumns : keyless.columns = #[⟨"id", [.str "a"]⟩, ⟨"key", []⟩] :=
    Table.columns_ofColumns (by decide)
  have hrowCount : keyless.rowCount = 1 := by
    rw [Table.rowCount, hcolumns]
    rfl
  have hrows : keyless.rows = [[.str "a", .null]] := by
    rw [Table.rows, hrowCount, funext keyless.cellsAt_eq, hcolumns]
    rfl
  have hkey : keyless.column? "key" = some [] := by
    rw [Table.column?_eq_some_iff, hcolumns]
    simp
  have hsorted : sorted = d.arrange keyless := by simp only [sorted, value_sort]
  have hheight : d.keyHeight keyless = 0 := by
    rw [keyHeight, hkey]
    rfl
  have hcount := d.rowCount_arrange_eq_keyHeight keyless
  rw [hheight, ← hsorted] at hcount
  refine ⟨hrowCount, hrows, hcount, ?_⟩
  rw [Table.rows, hcount]
  rfl

end Direction
end TableQuery
