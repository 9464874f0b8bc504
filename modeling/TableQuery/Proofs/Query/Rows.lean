/-
# Rows under changes of columns

The stages of a query change tables column by column, each column for itself, but what they mean is
said of rows. Filtering and sorting *gather*: they put into every column the cells at the same
positions of it (`Gathers`), so they gather rows (`Gathers.rows`). Leaving columns out shortens
every row.

A row is read by the names of the columns: `cellUnder` gives the cell under a name and `restrictRow`
the cells under the names that are kept. A rectangular table says no more than the names of its
columns and its rows (`entries_eq_of_isRectangular`).
-/

import TableQuery.Direction
import TableQuery.Proofs.Table.Entries
import Mathlib.Data.List.Basic

namespace TableQuery

/-- The cell of a row under a name. -/
def cellUnder (names : List String) (name : String) (row : List Value) : Value :=
  ((names.zip row).lookup name).getD .null

/-- The cells of a row under the names that pass a test. -/
def restrictRow (names : List String) (keep : String → Bool) (row : List Value) : List Value :=
  ((names.zip row).filter fun cell => keep cell.1).map Prod.snd

/-- The cell at a height of a column, empty where the column has ended. -/
def cellAt (values : List Value) (i : ℕ) : Value := values[i]?.getD .null

/-- A column is its cells at all heights. -/
theorem map_cellAt_range (values : List Value) :
    (List.range values.length).map (cellAt values) = values := by
  apply List.ext_getElem
  · simp
  · intro i h h'
    simp [cellAt, h']

namespace Table

variable {t : Table} {name : String} {cells : List Value} {n : ℕ}

theorem cellsAt_eq (t : Table) (i : ℕ) :
    t.cellsAt i = t.columns.toList.map fun c => cellAt c.values i := rfl

/-! ### Reading a row by names -/

/-- A row with the names of its columns. -/
theorem zip_cellsAt (t : Table) (i : ℕ) :
    t.columnNames.zip (t.cellsAt i) =
      t.columns.toList.map fun c => (c.name, cellAt c.values i) := by
  rw [columnNames, cellsAt_eq, List.zip_map']

/-- **The cell under a name is the one of the column that has the name.** -/
theorem cellUnder_cellsAt (h : t.column? name = some cells) (i : ℕ) :
    cellUnder t.columnNames name (t.cellsAt i) = cellAt cells i := by
  have hmem := column?_eq_some_iff.1 h
  have hlookup : (t.columns.toList.map fun c => (c.name, cellAt c.values i)).lookup name =
      some (cellAt cells i) :=
    lookup_map (d := ⟨name, cells⟩) (fun c => cellAt c.values i) (Array.mem_toList_iff.2 hmem)
      fun c hc hname => eq_of_name_eq (Array.mem_toList_iff.1 hc) hmem hname
  rw [cellUnder, zip_cellsAt, hlookup, Option.getD_some]

/-- **A restricted row is one of the table with fewer columns.** -/
theorem restrictRow_cellsAt (t : Table) (keep : String → Bool) (i : ℕ) :
    restrictRow t.columnNames keep (t.cellsAt i) = (t.filterColumns keep).cellsAt i := by
  rw [restrictRow, zip_cellsAt, List.filter_map, List.map_map, cellsAt_eq, columns_filterColumns,
    Array.toList_filter]
  rfl

/-! ### Heights -/

/-- The number of rows is the length of any column, if all have one. -/
theorem rowCount_eq (hne : t.columns ≠ #[]) (h : ∀ c ∈ t.columns, c.length = n) :
    t.rowCount = n := by
  have hsize : 0 < t.columns.size := Array.size_pos_iff.2 hne
  rw [rowCount, Array.getElem?_eq_getElem hsize]
  exact h _ (Array.getElem_mem hsize)

theorem rowCount_le (h : ∀ c ∈ t.columns, c.length ≤ n) : t.rowCount ≤ n := by
  rw [rowCount]
  cases hc : t.columns[0]? with
  | none => exact Nat.zero_le n
  | some c => exact h c (Array.mem_of_getElem? hc)

/-- A table is rectangular if all columns have one length. -/
theorem isRectangular_of_length (h : ∀ c ∈ t.columns, c.length = n) : t.IsRectangular := by
  intro c hc
  have hne : t.columns ≠ #[] := by
    intro hnil
    rw [hnil] at hc
    exact absurd hc (Array.not_mem_empty c)
  rw [rowCount_eq hne h]
  exact h c hc

theorem rows_of_columns_eq (h : t.columns = #[]) : t.rows = [] := by
  simp [rows, rowCount, h]

/-! ### Tables told by rows -/

/-- The cells of the rows under a name are the column that has the name. -/
theorem map_cellUnder_rows (ht : t.IsRectangular) (h : t.column? name = some cells) :
    t.rows.map (cellUnder t.columnNames name) = cells := by
  have hlength : cells.length = t.rowCount := ht _ (column?_eq_some_iff.1 h)
  rw [rows, List.map_map, ← hlength]
  conv => rhs; rw [← map_cellAt_range cells]
  exact List.map_congr_left fun i _ => cellUnder_cellsAt h i

/-- **A rectangular table says no more than its names and its rows.** -/
theorem entries_eq_of_isRectangular (ht : t.IsRectangular) :
    t.entries =
      t.columnNames.map fun name => (name, t.rows.map (cellUnder t.columnNames name)) := by
  have hentry : ∀ c ∈ t.columns.toList,
      (c.name, c.values) = (c.name, t.rows.map (cellUnder t.columnNames c.name)) := by
    intro c hc
    rw [map_cellUnder_rows ht (column?_eq_some_iff.2 (Array.mem_toList_iff.1 hc))]
  have hnames : t.columnNames = t.columns.toList.map Column.name := rfl
  rw [entries, List.map_congr_left hentry]
  conv => rhs; arg 2; rw [hnames]
  rw [List.map_map]
  rfl

section

variable {u : Table}

theorem entries_eq_of_rows_eq (ht : t.IsRectangular) (hu : u.IsRectangular)
    (hnames : t.columnNames = u.columnNames) (hrows : t.rows = u.rows) : t.entries = u.entries := by
  rw [entries_eq_of_isRectangular ht, entries_eq_of_isRectangular hu, hnames, hrows]

/-- Rectangular tables of the same names and rows have the same columns. -/
theorem columns_eq_of_rows_eq (ht : t.IsRectangular) (hu : u.IsRectangular)
    (hnames : t.columnNames = u.columnNames) (hrows : t.rows = u.rows) : t.columns = u.columns :=
  columns_eq_of_entries_eq (entries_eq_of_rows_eq ht hu hnames hrows)

/-- Rectangular tables of the same names and rows have the same contents. -/
theorem contents_eq_of_rows_eq (ht : t.IsRectangular) (hu : u.IsRectangular)
    (hnames : t.columnNames = u.columnNames) (hrows : t.rows = u.rows) :
    t.contents = u.contents := by
  rw [contents, contents, entries_eq_of_rows_eq ht hu hnames hrows]

end

/-! ### Gathering -/

/-- On the columns of `t`, `f` puts together the cells at the heights of `order`. -/
def Gathers (t : Table) (f : List Value → List Value) (order : List ℕ) : Prop :=
  ∀ c ∈ t.columns, f c.values = order.map (cellAt c.values)

namespace Gathers

variable {f : List Value → List Value} {order : List ℕ}

theorem length_of_mem (h : t.Gathers f order) {c : Column} (hc : c ∈ (t.mapColumns f).columns) :
    c.length = order.length := by
  rw [columns_mapColumns] at hc
  obtain ⟨d, hd, rfl⟩ := Array.mem_map.1 hc
  rw [Column.length, h d hd, List.length_map]

theorem isRectangular (h : t.Gathers f order) : (t.mapColumns f).IsRectangular :=
  isRectangular_of_length fun _ => h.length_of_mem

/-- **Gathering the cells of every column gathers rows.** -/
theorem rows (h : t.Gathers f order) (hne : t.columns ≠ #[]) :
    (t.mapColumns f).rows = order.map t.cellsAt := by
  have hcount : (t.mapColumns f).rowCount = order.length :=
    rowCount_eq (by simpa using hne) fun _ => h.length_of_mem
  rw [Table.rows, hcount]
  apply List.ext_getElem
  · simp
  · intro k hk hk'
    have hlt : k < order.length := by simpa using hk'
    rw [List.getElem_map, List.getElem_map, List.getElem_range, cellsAt_eq, cellsAt_eq,
      columns_mapColumns, Array.toList_map, List.map_map]
    refine List.map_congr_left fun c hc => ?_
    simp [cellAt, h c (Array.mem_toList_iff.1 hc), hlt]

end Gathers

/-! ### Filtering -/

/-- The cells whose flags are set stand at the heights of these flags. -/
theorem keepFlagged_eq_map_range (flags : List Bool) (values : List Value) :
    keepFlagged flags values =
      ((List.range values.length).filter fun i => flags[i]? = some true).map (cellAt values) := by
  induction flags generalizing values with
  | nil => simp
  | cons flag flags ih =>
    cases values with
    | nil => simp
    | cons value values =>
      rw [keepFlagged_cons, ih, List.length_cons, List.range_succ_eq_map, List.filter_cons,
        List.filter_map]
      cases flag <;> simp [Function.comp_def, cellAt]

theorem gathers_setFlags (ht : t.IsRectangular) (flags : List Bool) :
    t.Gathers (keepFlagged flags)
      ((List.range t.rowCount).filter fun i => flags[i]? = some true) := by
  intro c hc
  rw [keepFlagged_eq_map_range, ← ht c hc]
  rfl

/-- The flags of a column are set at the heights of the cells that pass the test. -/
theorem gathers_keepFlagged (ht : t.IsRectangular) (h : t.column? name = some cells)
    (test : Value → Bool) :
    t.Gathers (keepFlagged (cells.map test))
      ((List.range t.rowCount).filter fun i => test (cellAt cells i)) := by
  have hlength : cells.length = t.rowCount := ht _ (column?_eq_some_iff.1 h)
  have hset : ((List.range t.rowCount).filter fun i => (cells.map test)[i]? = some true) =
      (List.range t.rowCount).filter fun i => test (cellAt cells i) := by
    refine List.filter_congr fun i hi => ?_
    have hi' : i < cells.length := hlength.symm ▸ List.mem_range.1 hi
    simp [cellAt, hi']
  exact hset ▸ gathers_setFlags ht _

/-- **Filtering columns by the flags of one of them filters rows.** -/
theorem rows_filterRows (ht : t.IsRectangular) (h : t.column? name = some cells)
    (test : Value → Bool) :
    (t.filterRows (cells.map test)).rows =
      t.rows.filter fun row => test (cellUnder t.columnNames name row) := by
  have hne := Array.ne_empty_of_mem (column?_eq_some_iff.1 h)
  rw [filterRows, (gathers_keepFlagged ht h test).rows hne, rows, List.filter_map]
  simp only [Function.comp_def, cellUnder_cellsAt h]

/-- Without flags no cell is kept. -/
theorem gathers_keepFlagged_nil (t : Table) : t.Gathers (keepFlagged []) [] := by
  intro c _
  rw [keepFlagged, List.zip_nil_right]
  rfl

theorem rows_filterRows_nil (t : Table) : (t.filterRows []).rows = [] := by
  by_cases hne : t.columns = #[]
  · exact rows_of_columns_eq (by simp [filterRows, hne])
  · exact t.gathers_keepFlagged_nil.rows hne

/-! ### Sorting -/

theorem gathers_cellsInOrder (t : Table) (order : List ℕ) :
    t.Gathers (cellsInOrder order) order := by
  intro c _
  simp [cellsInOrder, cellAt]

/-- **Sorting the heights of a column sorts whatever stands at them** by the cells of the column. -/
theorem map_ascendingPositions {α : Type} (item : ℕ → α) (key : α → Value)
    (hkey : ∀ i, key (item i) = cellAt cells i) :
    (Direction.ascendingPositions cells).map item =
      ((List.range cells.length).map item).mergeSort fun a b =>
        ((key a).sortCompare (key b)).isLE := by
  have hitems : cells.zipIdx.map (fun p => item p.2) = (List.range cells.length).map item := by
    rw [← Function.comp_def, ← List.map_map, List.zipIdx_map_snd, List.range_eq_range']
  have hcell : ∀ p ∈ cells.zipIdx, key (item p.2) = p.1 := by
    intro p hp
    rw [hkey, cellAt, List.mem_zipIdx_iff_getElem?.1 hp, Option.getD_some]
  rw [Direction.ascendingPositions, List.map_map, ← hitems]
  refine List.map_mergeSort fun p hp q hq => ?_
  rw [Function.comp_apply, Function.comp_apply, hcell p hp, hcell q hq]

/-! ### Leaving columns out -/

theorem isRectangular_filterColumns (ht : t.IsRectangular) (keep : String → Bool) :
    (t.filterColumns keep).IsRectangular :=
  isRectangular_of_length fun c hc => ht c (Array.mem_filter.1 hc).1

/-- **Leaving columns out restricts rows**, as long as a column is left. -/
theorem rows_filterColumns (ht : t.IsRectangular) (keep : String → Bool)
    (hne : (t.filterColumns keep).columns ≠ #[]) :
    (t.filterColumns keep).rows = t.rows.map (restrictRow t.columnNames keep) := by
  have hcount : (t.filterColumns keep).rowCount = t.rowCount :=
    rowCount_eq hne fun c hc => ht c (Array.mem_filter.1 hc).1
  rw [rows, rows, hcount, List.map_map]
  exact List.map_congr_left fun i _ => (restrictRow_cellsAt t keep i).symm

/-- Keeping all columns keeps whole rows. -/
theorem map_restrictRow_rows (t : Table) {keep : String → Bool} (hkeep : ∀ name, keep name = true) :
    t.rows.map (restrictRow t.columnNames keep) = t.rows := by
  rw [rows, List.map_map]
  refine List.map_congr_left fun i _ => ?_
  have hall : t.columns.filter (fun c => keep c.name) = t.columns :=
    Array.filter_eq_self.2 fun c _ => hkeep c.name
  rw [Function.comp_apply, restrictRow_cellsAt, cellsAt_eq, columns_filterColumns, hall, cellsAt_eq]

end Table
end TableQuery
