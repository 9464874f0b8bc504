/-
# Rows stay whole

A table may have columns of different lengths. Filtering and sorting take each column for itself,
and still the cells of one height stay together: there is one list of heights from which every
column draws its cells (`Table.Draws`). A condition draws from the heights of its set flags. A
column that ends above some of them has no cell there, and as heights increase, these are the last
ones, so nothing moves up into another row (`Table.getElem?_keepFlagged`). A direction draws from
the positions of its permutation, and fills up with empty cells.
-/

import TableQuery.Proofs.Direction.Ranking

namespace TableQuery

variable {t u : Table} {order : List ℕ}

namespace Table

/-! ### Flags that are set -/

/-- **A flagged cell is one at the height of a set flag,** as far down as the column reaches. -/
theorem getElem?_keepFlagged (flags : List Bool) (values : List Value) (i : ℕ) :
    (keepFlagged flags values)[i]? = (flags.idxsOf true)[i]?.bind fun k => values[k]? := by
  induction flags generalizing values i with
  | nil => simp
  | cons flag flags ih =>
    cases values with
    | nil => simp
    | cons value values =>
      -- Behind the first flag the heights of set flags are one more than they are in the rest.
      have hrest : ∀ i : ℕ, (keepFlagged flags values)[i]? =
          (flags.idxsOf true 1)[i]?.bind fun k => (value :: values)[k]? := by
        intro i
        rw [ih, List.idxsOf_start (s := 1), List.getElem?_map, Option.bind_map]
        rfl
      cases flag with
      | false => simpa using hrest i
      | true =>
        cases i with
        | zero => simp
        | succ i => simpa using hrest i

theorem length_keepFlagged_le_idxsOf (flags : List Bool) (values : List Value) :
    (keepFlagged flags values).length ≤ (flags.idxsOf true).length := by
  rw [← List.getElem?_eq_none_iff, getElem?_keepFlagged,
    List.getElem?_eq_none (Nat.le_refl _), Option.bind_none]

/-! ### Drawing rows -/

/-- The columns of `u` are those of `t`, with the cells at the heights of `order`. Cells at the end
may be missing, where those of `t` are empty or missing. -/
structure Draws (u t : Table) (order : List ℕ) : Prop where
  names : u.columnNames = t.columnNames
  length_le : ∀ c ∈ u.columns, c.length ≤ order.length
  cell : ∀ name old new, t.column? name = some old → u.column? name = some new →
    ∀ i k : ℕ, order[i]? = some k → cellAt new i = cellAt old k

/-- Changing cells draws rows if each column draws its cells from the same heights. -/
theorem draws_mapColumns {f : List Value → List Value}
    (hlength : ∀ c ∈ t.columns, (f c.values).length ≤ order.length)
    (hcell : ∀ c ∈ t.columns, ∀ i k : ℕ, order[i]? = some k →
      cellAt (f c.values) i = cellAt c.values k) :
    (t.mapColumns f).Draws t order where
  names := columnNames_mapColumns f
  length_le := by
    intro c hc
    rw [columns_mapColumns] at hc
    obtain ⟨d, hd, rfl⟩ := Array.mem_map.1 hc
    exact hlength d hd
  cell := by
    intro name old new hold hnew
    rw [column?_mapColumns, hold, Option.map_some, Option.some.injEq] at hnew
    rw [← hnew]
    exact hcell ⟨name, old⟩ (column?_eq_some_iff.1 hold)

/-- **Filtering draws the rows at the set flags.** -/
theorem draws_filterRows (t : Table) (flags : List Bool) :
    (t.filterRows flags).Draws t (flags.idxsOf true) := by
  refine draws_mapColumns (fun c _ => length_keepFlagged_le_idxsOf flags c.values) ?_
  intro c _ i k hk
  rw [cellAt, getElem?_keepFlagged, hk, Option.bind_some, cellAt]

/-- **Reordering draws the rows at the positions.** -/
theorem draws_reorderRows (t : Table) (order : List ℕ) : (t.reorderRows order).Draws t order := by
  refine draws_mapColumns (fun c _ => ?_) ?_
  · rw [cellsInOrder, List.length_map]
  · intro c hc i k hk
    rw [t.gathers_cellsInOrder order c hc, cellAt, List.getElem?_map, hk]
    rfl

/-- A row by the names of its columns. -/
theorem cellsAt_eq_map_columnNames (t : Table) (i : ℕ) :
    t.cellsAt i = t.columnNames.map fun name => cellAt ((t.column? name).getD []) i := by
  rw [cellsAt_eq, columnNames, List.map_map]
  refine List.map_congr_left fun c hc => ?_
  rw [Function.comp_apply, column?_eq_some_iff.2 (Array.mem_toList_iff.1 hc), Option.getD_some]

theorem Draws.cellsAt (h : u.Draws t order) {i k : ℕ} (hk : order[i]? = some k) :
    u.cellsAt i = t.cellsAt k := by
  rw [cellsAt_eq_map_columnNames, cellsAt_eq_map_columnNames, h.names]
  refine List.map_congr_left fun name hname => ?_
  obtain ⟨old, hold⟩ := mem_columnNames_iff.1 hname
  rw [← h.names] at hname
  obtain ⟨new, hnew⟩ := mem_columnNames_iff.1 hname
  rw [hold, hnew, Option.getD_some, Option.getD_some, h.cell name old new hold hnew i k hk]

/-- **Rows that are drawn are whole:** each of them is one row of the table they come from. -/
theorem Draws.rows (h : u.Draws t order) : u.rows = (order.take u.rowCount).map t.cellsAt := by
  have hcount : u.rowCount ≤ order.length := rowCount_le h.length_le
  apply List.ext_getElem
  · simp [Table.rows, hcount]
  · intro i hi hi'
    have hlt : i < order.length := by
      rw [List.length_map, List.length_take] at hi'
      omega
    simp only [Table.rows, List.getElem_map, List.getElem_range, List.getElem_take]
    exact h.cellsAt (List.getElem?_eq_getElem hlt)

/-- **Filtering and sorting leave rows whole,** on every table. There is one list of heights from
which all columns draw their cells: for a condition the heights of its set flags from top to bottom,
which are none if there is no such column, and for a direction its permutation. So each row of the
outcome is one row of the table. -/
theorem filter_sort_draws (catalog : Catalog) (source : String) (t : Table) :
    (∀ c : Condition,
      let flags := (c.classify catalog source t).value.1
      let kept := (c.filter catalog source t).value.table
      kept.Draws t (flags.idxsOf true) ∧ (t.column? c.column = none → flags.idxsOf true = []) ∧
      kept.rows = ((flags.idxsOf true).take kept.rowCount).map t.cellsAt) ∧
    ∀ d : Direction,
      let order := (d.permutation catalog source t).value.1
      let sorted := (d.sort catalog source t).value.table
      sorted.Draws t order ∧ sorted.rows = (order.take sorted.rowCount).map t.cellsAt := by
  constructor
  · intro c flags kept
    have hflags : flags = c.flags t := congrArg Prod.fst (c.value_classify catalog source t)
    have hkept : kept = t.filterRows flags := by
      rw [hflags]
      exact congrArg Evaluation.table (c.value_filter catalog source t)
    have hdraws : kept.Draws t (flags.idxsOf true) := hkept ▸ t.draws_filterRows flags
    refine ⟨hdraws, fun hnone => ?_, hdraws.rows⟩
    rw [hflags, Condition.flags, hnone, List.idxsOf_nil]
  · intro d order sorted
    have horder : order = d.rowOrder t := congrArg Prod.fst (d.value_permutation catalog source t)
    have hsorted : sorted = t.reorderRows order := by
      rw [horder]
      exact congrArg Evaluation.table (d.value_sort catalog source t)
    have hdraws : sorted.Draws t order := hsorted ▸ t.draws_reorderRows order
    exact ⟨hdraws, hdraws.rows⟩

/-- The middle column ends first, and the last one goes on where the key has ended. -/
def ragged : Table := .ofColumns
  [⟨"key", [.int 2, .int 1]⟩, ⟨"id", [.str "a"]⟩, ⟨"note", [.str "x", .str "y", .str "z"]⟩]

/-- The second row has no cell in the middle column, and none moves up to it. Below the key there is
no row. -/
theorem filter_sort_draws_ragged :
    let catalog := Catalog.empty {}
    let filtered (c : Condition) := (c.filter catalog "ragged" ragged).value.table
    let sorted := ((⟨"key", .ascending⟩ : Direction).sort catalog "ragged" ragged).value.table
    ragged.column? "size" = none ∧ (filtered ⟨"size", .less, .int 2⟩).Draws ragged [] ∧
    (filtered ⟨"key", .less, .int 2⟩).rows = [[.int 1, .null, .str "y"]] ∧
    sorted.rows = [[.int 1, .null, .str "y"], [.int 2, .str "a", .str "x"]] := by
  intro catalog filtered sorted
  have hcolumns : ragged.columns = #[⟨"key", [.int 2, .int 1]⟩, ⟨"id", [.str "a"]⟩,
      ⟨"note", [.str "x", .str "y", .str "z"]⟩] := columns_ofColumns (by decide)
  have hkey : ragged.column? "key" = some [.int 2, .int 1] := by
    rw [column?_eq_some_iff, hcolumns]
    simp
  have hsize : ragged.column? "size" = none := by
    rw [column?_eq_none_iff, columnNames, hcolumns]
    decide
  have hcount : ∀ f, (ragged.mapColumns f).rowCount = (f [.int 2, .int 1]).length := by
    intro f
    rw [rowCount, columns_mapColumns, Array.getElem?_map, hcolumns]
    rfl
  obtain ⟨hfilter, hsort⟩ := filter_sort_draws catalog "ragged" ragged
  obtain ⟨hnone, hempty, -⟩ := hfilter ⟨"size", .less, .int 2⟩
  refine ⟨hsize, ?_, ?_, ?_⟩
  · rwa [hempty hsize] at hnone
  · rw [(hfilter ⟨"key", .less, .int 2⟩).2.2, Condition.value_filter, Condition.value_classify,
      Condition.select, filterRows, hcount, Condition.flags, hkey, funext ragged.cellsAt_eq,
      hcolumns]
    rfl
  · have horder : Direction.rowOrder ⟨"key", .ascending⟩ ragged = [1, 0] := by
      rw [Direction.rowOrder, hkey]
      exact (Direction.eq_ascendingPositions_iff.2 (by decide)).symm
    rw [(hsort ⟨"key", .ascending⟩).2, Direction.value_sort, Direction.value_permutation,
      Direction.arrange, reorderRows, hcount, horder, funext ragged.cellsAt_eq, hcolumns]
    rfl

end Table
end TableQuery
