/-
# Positions

Sorting computes positions and gathers at them the cells of every column. The positions are those of
the cells of one column from the smallest on, or that list from its other end
(`Direction.positions_eq`). Whatever stands at the positions is sorted with them
(`Direction.isStableSort_map_ascendingPositions`): the cells, the rows, or the positions that all of
it came from.
-/

import TableQuery.Proofs.Query.Rows
import TableQuery.Proofs.Query.Stages
import TableQuery.Proofs.StableSort
import TableQuery.Proofs.Value.SortOrder

namespace TableQuery

variable {t : Table}

namespace SortOrder

variable {α β : Type}

/-- A list in an order, read from its smallest element on. -/
def fromLeast : SortOrder → List α → List α
  | .ascending, l => l
  | .descending, l => l.reverse

theorem fromLeast_map (order : SortOrder) (f : α → β) (l : List α) :
    order.fromLeast (l.map f) = (order.fromLeast l).map f := by
  cases order with
  | ascending => rfl
  | descending => exact List.map_reverse.symm

theorem fromLeast_filter (order : SortOrder) (p : α → Bool) (l : List α) :
    order.fromLeast (l.filter p) = (order.fromLeast l).filter p := by
  cases order with
  | ascending => rfl
  | descending => exact List.filter_reverse.symm

theorem fromLeast_fromLeast (order : SortOrder) (l : List α) :
    order.fromLeast (order.fromLeast l) = l := by
  cases order with
  | ascending => rfl
  | descending => exact List.reverse_reverse l

theorem fromLeast_injective (order : SortOrder) : (order.fromLeast (α := α)).Injective :=
  Function.LeftInverse.injective order.fromLeast_fromLeast

theorem fromLeast_perm (order : SortOrder) (l : List α) : (order.fromLeast l).Perm l := by
  cases order with
  | ascending => exact List.Perm.refl l
  | descending => exact l.reverse_perm

theorem fromLeast_flatMap (order : SortOrder) (l : List α) (f : α → List β) :
    order.fromLeast (l.flatMap f) =
      (order.fromLeast l).flatMap fun a => order.fromLeast (f a) := by
  cases order with
  | ascending => rfl
  | descending => exact List.reverse_flatMap

theorem mem_fromLeast {order : SortOrder} {a : α} {l : List α} :
    a ∈ order.fromLeast l ↔ a ∈ l := by
  cases order with
  | ascending => rfl
  | descending => exact List.mem_reverse

end SortOrder

/-! ### Positions of cells -/

/-- Positions compared by the cells at them. -/
def compareCells (cells : List Value) (i j : ℕ) : Ordering :=
  (cellAt cells i).sortCompare (cellAt cells j)

instance (cells : List Value) : Std.TransCmp (compareCells cells) :=
  transCmp_on Value.sortCompare (cellAt cells)

namespace Direction

variable {d : Direction} {cells : List Value}

theorem positions_eq (d : Direction) (cells : List Value) :
    d.positions cells = d.order.fromLeast (ascendingPositions cells) := by
  rw [positions]
  cases d.order <;> rfl

theorem length_positions (d : Direction) (cells : List Value) :
    (d.positions cells).length = cells.length := by
  rw [positions]
  split <;> simp [ascendingPositions, List.length_mergeSort]

theorem lt_of_mem_positions {i : ℕ} (h : i ∈ d.positions cells) : i < cells.length := by
  rw [positions_eq, SortOrder.mem_fromLeast] at h
  obtain ⟨p, hp, rfl⟩ := List.mem_map.1 h
  rw [List.mem_mergeSort] at hp
  exact List.snd_lt_of_mem_zipIdx hp

/-- **What stands at the positions is sorted with them,** if it is compared by the cells there. -/
theorem isStableSort_map_ascendingPositions {α : Type} (item : ℕ → α) (key : α → Value)
    (hkey : ∀ i, key (item i) = cellAt cells i) :
    IsStableSort (fun a b => (key a).sortCompare (key b)) ((List.range cells.length).map item)
      ((ascendingPositions cells).map item) := by
  have := transCmp_on Value.sortCompare key
  rw [Table.map_ascendingPositions item key hkey]
  exact isStableSort_mergeSort _

/-- The positions themselves are sorted. -/
theorem isStableSort_ascendingPositions (cells : List Value) :
    IsStableSort (compareCells cells) (List.range cells.length) (ascendingPositions cells) := by
  have hsort := isStableSort_map_ascendingPositions id (cellAt cells) fun _ => rfl
  rwa [List.map_id, List.map_id] at hsort

/-! ### Positions of rows -/

/-- Sorting takes its rows from those that the columns have. -/
theorem lt_of_mem_rowOrder {n i : ℕ} (h : ∀ c ∈ t.columns, c.length ≤ n)
    (hi : i ∈ d.rowOrder t) : i < n := by
  rw [rowOrder] at hi
  cases hd : t.column? d.column with
  | none =>
    rw [hd] at hi
    exact (List.mem_range.1 hi).trans_le (Table.rowCount_le h)
  | some cells =>
    rw [hd] at hi
    exact (lt_of_mem_positions hi).trans_le (h _ (Table.column?_eq_some_iff.1 hd))

end Direction

/-! ### Gathered columns -/

namespace Table

/-- The columns of a table, each with the cells at the positions of `order`. -/
def gathered (t : Table) (order : List ℕ) : Array Column :=
  t.columns.map fun c => { c with values := order.map (cellAt c.values) }

theorem Gathers.columns {f : List Value → List Value} {order : List ℕ} (h : t.Gathers f order) :
    (t.mapColumns f).columns = t.gathered order := by
  rw [columns_mapColumns, gathered]
  refine Array.map_congr_left fun c hc => ?_
  rw [h c hc]

theorem columns_reorderRows (t : Table) (order : List ℕ) :
    (t.reorderRows order).columns = t.gathered order := (t.gathers_cellsInOrder order).columns

/-- Gathered cells are found under the name that they had. -/
theorem column?_reorderRows (t : Table) (order : List ℕ) (name : String) :
    (t.reorderRows order).column? name =
      (t.column? name).map fun cells => order.map (cellAt cells) := by
  rw [reorderRows, column?_mapColumns]
  cases h : t.column? name with
  | none => rfl
  | some cells => exact congrArg some (t.gathers_cellsInOrder order _ (column?_eq_some_iff.1 h))

/-- Gathering from the last position on turns every column round. -/
theorem gathered_reverse (t : Table) (order : List ℕ) :
    t.gathered order.reverse =
      (t.gathered order).map fun c => { c with values := c.values.reverse } := by
  rw [gathered, gathered, Array.map_map]
  refine Array.map_congr_left fun c _ => ?_
  rw [Function.comp_apply, List.map_reverse]

end Table

namespace Direction

/-- **Sorting gathers the columns** at the positions of the rows. -/
theorem columns_arrange (d : Direction) (t : Table) :
    (d.arrange t).columns = t.gathered (d.rowOrder t) := t.columns_reorderRows _

theorem column?_arrange (d : Direction) (t : Table) (name : String) :
    (d.arrange t).column? name =
      (t.column? name).map fun cells => (d.rowOrder t).map (cellAt cells) :=
  t.column?_reorderRows _ name

/-- A table without columns has no rows to put in an order. -/
theorem rowOrder_of_columns_eq (d : Direction) (h : t.columns = #[]) : d.rowOrder t = [] := by
  have hcolumn : d.column ∉ t.columnNames := by
    rw [Table.columnNames, h]
    exact List.not_mem_nil
  have hcount : t.rowCount = 0 := by simp [Table.rowCount, h]
  rw [rowOrder, Table.column?_eq_none_iff.2 hcolumn, hcount, List.range_zero]

/-- **The rows are those at the positions,** on any table. -/
theorem rows_arrange (d : Direction) (t : Table) :
    (d.arrange t).rows = (d.rowOrder t).map t.cellsAt := by
  by_cases hne : t.columns = #[]
  · rw [d.rowOrder_of_columns_eq hne, List.map_nil]
    exact Table.rows_of_columns_eq (by simp [arrange, Table.reorderRows, hne])
  · exact (t.gathers_cellsInOrder _).rows hne

/-- As many rows are left as positions were given. -/
theorem rowCount_arrange (d : Direction) (t : Table) :
    (d.arrange t).rowCount = (d.rowOrder t).length := by
  simpa [Table.rows] using congrArg List.length (d.rows_arrange t)

/-- Of a rectangular table all rows are left. -/
theorem length_rowOrder (d : Direction) (ht : t.IsRectangular) :
    (d.rowOrder t).length = t.rowCount := by
  rw [rowOrder]
  cases h : t.column? d.column with
  | none => exact List.length_range
  | some cells => exact (d.length_positions cells).trans (ht _ (Table.column?_eq_some_iff.1 h))

end Direction
end TableQuery
