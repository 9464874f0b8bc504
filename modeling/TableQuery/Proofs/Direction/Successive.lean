/-
# Sorting by one direction after the other

Sorting leaves each row whole. So what directions make of a table, one after the other, is told by a
ranking of its rows (`Table.RankedBy`), and each of them changes the comparison that ranks them
(`Direction.rerank`): rows are compared by its column, and those with equal cells as before. A
descending direction takes all that from the other side, so it turns round the order that equal
rows came in.

One direction is `Table.RankedBy.arrange`, any number of them `Table.RankedBy.arrangeAll`.
-/

import TableQuery.Proofs.Direction.Ranking

namespace TableQuery

variable {t u v : Table} {cmp : ℕ → ℕ → Ordering} {order : List ℕ} {n : ℕ}

/-! ### Gathering what is gathered -/

/-- Gathered cells at a position are the cells at what is gathered there. Behind all of them stands
the empty cell, as at any `n` beyond the column. -/
theorem cellAt_map_cellAt {values : List Value} (h : values.length ≤ n) (order : List ℕ) (i : ℕ) :
    cellAt (order.map (cellAt values)) i = cellAt values (order[i]?.getD n) := by
  rw [cellAt, List.getElem?_map]
  cases order[i]? with
  | none => simp [cellAt, h]
  | some j => rfl

namespace Table

/-- Tables of the same columns find the same cells under a name. -/
theorem column?_eq_of_columns_eq (h : u.columns = v.columns) (name : String) :
    u.column? name = v.column? name := by
  apply Option.ext
  intro values
  rw [column?_eq_some_iff, column?_eq_some_iff, h]

theorem rowCount_eq_of_columns_eq (h : u.columns = v.columns) : u.rowCount = v.rowCount := by
  rw [rowCount, rowCount, h]

theorem rows_eq_of_columns_eq (h : u.columns = v.columns) : u.rows = v.rows := by
  have hcells : u.cellsAt = v.cellsAt := by
    funext i
    rw [cellsAt_eq, cellsAt_eq, h]
  rw [rows, rows, rowCount_eq_of_columns_eq h, hcells]

theorem gathered_gathered (h : u.columns = t.gathered order) (ht : ∀ c ∈ t.columns, c.length ≤ n)
    (positions : List ℕ) :
    u.gathered positions = t.gathered (positions.map fun i => order[i]?.getD n) := by
  rw [gathered, h, gathered, gathered, Array.map_map]
  refine Array.map_congr_left fun c hc => ?_
  rw [Function.comp_apply, List.map_map]
  congr 1
  exact List.map_congr_left fun i _ => cellAt_map_cellAt (ht c hc) order i

/-- Gathering all rows from top to bottom changes nothing. -/
theorem gathered_range (ht : t.IsRectangular) : t.gathered (List.range t.rowCount) = t.columns := by
  have hcolumn : ∀ c ∈ t.columns,
      { c with values := (List.range t.rowCount).map (cellAt c.values) } = c := by
    intro c hc
    rw [← ht c hc, Column.length, map_cellAt_range]
  rw [gathered, Array.map_congr_left hcolumn, Array.map_id']

theorem isRectangular_of_gathered (h : u.columns = t.gathered order) : u.IsRectangular := by
  refine isRectangular_of_length (n := order.length) fun c hc => ?_
  rw [h, gathered] at hc
  obtain ⟨d, -, rfl⟩ := Array.mem_map.1 hc
  exact List.length_map _

theorem column?_of_gathered (h : u.columns = t.gathered order) (name : String) :
    u.column? name = (t.column? name).map fun cells => order.map (cellAt cells) := by
  rw [← columns_reorderRows] at h
  rw [column?_eq_of_columns_eq h, column?_reorderRows]

theorem rows_of_gathered (h : u.columns = t.gathered order) (hne : t.columns ≠ #[]) :
    u.rows = order.map t.cellsAt := by
  rw [← columns_reorderRows] at h
  rw [rows_eq_of_columns_eq h]
  exact (t.gathers_cellsInOrder order).rows hne

/-! ### Ranked rows -/

/-- The columns of `u` are those of `t` with the rows ranked by a comparison of their positions. -/
def RankedBy (t : Table) (cmp : ℕ → ℕ → Ordering) (u : Table) : Prop :=
  ∃ order, IsRanking cmp t.rowCount order ∧ u.columns = t.gathered order

end Table

namespace Direction

variable {d : Direction} {tie : ℕ → ℕ → Ordering}

/-- How a direction compares rows of `t`, by their positions, that `tie` has ranked before. -/
def rerank (d : Direction) (t : Table) (tie : ℕ → ℕ → Ordering) : ℕ → ℕ → Ordering :=
  match t.column? d.column with
  | some cells => d.order.orient (compareLex (compareCells cells) tie)
  | none => tie

theorem rerank_of_column?_eq_some {cells : List Value} (h : t.column? d.column = some cells) :
    d.rerank t tie = d.order.orient (compareLex (compareCells cells) tie) := by
  rw [rerank, h]

theorem rerank_of_column?_eq_none (h : t.column? d.column = none) : d.rerank t tie = tie := by
  rw [rerank, h]

instance [Std.OrientedCmp tie] : Std.OrientedCmp (d.rerank t tie) := by
  unfold rerank
  split <;> infer_instance

/-- Sorts by each of the directions in turn. -/
def arrangeAll (ds : List Direction) (t : Table) : Table := ds.foldl (fun u d => d.arrange u) t

/-- How directions in turn compare rows of `t` that `tie` has ranked before. -/
def rerankAll (ds : List Direction) (t : Table) (tie : ℕ → ℕ → Ordering) : ℕ → ℕ → Ordering :=
  ds.foldl (fun tie d => d.rerank t tie) tie

instance orientedCmp_rerankAll [Std.OrientedCmp tie] (ds : List Direction) :
    Std.OrientedCmp (rerankAll ds t tie) := by
  induction ds generalizing tie with
  | nil => assumption
  | cons d ds ih => exact ih

end Direction

namespace Table.RankedBy

/-- The rows of a table are ranked from top to bottom. -/
theorem refl (ht : t.IsRectangular) : t.RankedBy compare t :=
  ⟨_, .range _, (gathered_range ht).symm⟩

/-- **One comparison ranks rows in one way.** -/
theorem columns_eq [Std.OrientedCmp cmp] (hu : t.RankedBy cmp u) (hv : t.RankedBy cmp v) :
    u.columns = v.columns := by
  obtain ⟨order, horder, hcolumns⟩ := hu
  obtain ⟨order', horder', hcolumns'⟩ := hv
  rw [hcolumns, hcolumns', horder.unique horder']

/-- **Sorting ranks the rows anew,** those with equal cells as they have been ranked before. -/
theorem arrange (ht : t.IsRectangular) (h : t.RankedBy cmp u) (d : Direction) :
    t.RankedBy (d.rerank t cmp) (d.arrange u) := by
  obtain ⟨order, hranking, hcolumns⟩ := h
  have hfound := column?_of_gathered hcolumns d.column
  cases hd : t.column? d.column with
  | none =>
    rw [hd, Option.map_none] at hfound
    refine ⟨order, ?_, ?_⟩
    · rwa [Direction.rerank_of_column?_eq_none hd]
    · rw [d.columns_arrange, Direction.rowOrder, hfound,
        gathered_range (isRectangular_of_gathered hcolumns), hcolumns]
  | some cells =>
    -- The place of a position: the row of `t` that has come there, none beyond the last.
    let place := fun i : ℕ => order[i]?.getD t.rowCount
    rw [hd, Option.map_some] at hfound
    have hlength : cells.length ≤ t.rowCount := (ht _ (column?_eq_some_iff.1 hd)).le
    have hplaces : (List.range (order.map (cellAt cells)).length).map place = order := by
      apply List.ext_getElem
      · simp
      · intro i h h'
        simp [place, h']
    have hsort : IsStableSort (compareCells cells) order
        ((Direction.ascendingPositions (order.map (cellAt cells))).map place) := by
      have hsort := Direction.isStableSort_map_ascendingPositions place (cellAt cells)
        fun i => (cellAt_map_cellAt hlength order i).symm
      rwa [hplaces] at hsort
    have hagain := (hranking.sort hsort).orient d.order
    rw [← Direction.rerank_of_column?_eq_some hd] at hagain
    refine ⟨_, hagain, ?_⟩
    have hpositions : d.rowOrder u = d.positions (order.map (cellAt cells)) := by
      rw [Direction.rowOrder, hfound]
    rw [d.columns_arrange, hpositions, d.positions_eq,
      gathered_gathered hcolumns fun c hc => (ht c hc).le, SortOrder.fromLeast_map]

/-- **Any number of sorts ranks the rows by the last one first.** -/
theorem arrangeAll (ht : t.IsRectangular) (h : t.RankedBy cmp u) (ds : List Direction) :
    t.RankedBy (Direction.rerankAll ds t cmp) (Direction.arrangeAll ds u) := by
  induction ds generalizing u cmp with
  | nil => exact h
  | cons d ds ih => exact ih (h.arrange ht d)

end Table.RankedBy

namespace Direction

/-- A column once more changes nothing in ascending order. -/
theorem compareLex_compareLex (key tie : ℕ → ℕ → Ordering) :
    compareLex key (compareLex key tie) = compareLex key tie := by
  funext i j
  rw [compareLex, compareLex]
  cases key i j <;> rfl

/-- The reverse of a comparison that breaks ties by its own reverse breaks them as at first. -/
theorem orient_orient_descending (key tie : ℕ → ℕ → Ordering) [Std.OrientedCmp key] :
    SortOrder.descending.orient
        (compareLex key (SortOrder.descending.orient (compareLex key tie))) =
      compareLex (fun i j => key j i) tie := by
  funext i j
  have hswap : key i j = (key j i).swap := Std.OrientedCmp.eq_swap
  simp only [SortOrder.orient, compareLex, hswap]
  cases key j i <;> rfl

/-- **Successive sorts sort by several keys.** Sorting a valid table by `second` and then by `first`
puts its rows in the one order that compares them by the keys of `first` and then, where these are
equal, as `second` has ordered them. Each of the two takes its comparison as it is if it is
ascending, and the exact reverse, ties included, if it is descending. So sorting a column twice in
ascending order is the same as once, and twice in descending order is the stable sort by the
reversed comparison, with ties from top to bottom again. -/
theorem sort_sort (hvalid : t.validate = .ok ()) {first second : Direction}
    {keys keys' : List Value} (hfirst : t.column? first.column = some keys)
    (hsecond : t.column? second.column = some keys') (catalog : Catalog) (source : String) :
    let sorted (d : Direction) (u : Table) := (d.sort catalog source u).value.table
    let bySecond := second.order.orient (compareLex (compareCells keys') compare)
    let byBoth := first.order.orient (compareLex (compareCells keys) bySecond)
    let up : Direction := ⟨first.column, .ascending⟩
    let down : Direction := ⟨first.column, .descending⟩
    (∃ order, (∀ order', IsRanking byBoth t.rowCount order' ↔ order' = order) ∧
      (sorted first (sorted second t)).columns = t.gathered order ∧
      (sorted first (sorted second t)).rows = order.map t.cellsAt) ∧
    (sorted up (sorted up t)).columns = (sorted up t).columns ∧
    ∃ order, IsStableSort (fun i j => compareCells keys j i) (List.range t.rowCount) order ∧
      (sorted down (sorted down t)).columns = t.gathered order ∧
      (sorted down (sorted down t)).rows = order.map t.cellsAt := by
  intro sorted bySecond byBoth up down
  have ht := (t.validate_eq_ok_iff).1 hvalid
  have hne := Array.ne_empty_of_mem (Table.column?_eq_some_iff.1 hfirst)
  have hsorted : ∀ d u, sorted d u = d.arrange u := by
    intro d u
    simp only [sorted, value_sort]
  have hrun := fun ds => (Table.RankedBy.refl ht).arrangeAll ht ds
  simp only [hsorted]
  refine ⟨?_, ?_, ?_⟩
  · obtain ⟨order, hranking, hcolumns⟩ := hrun [second, first]
    have hcompare : rerankAll [second, first] t compare = byBoth := by
      simp only [rerankAll, List.foldl_cons, List.foldl_nil, rerank_of_column?_eq_some hfirst,
        rerank_of_column?_eq_some hsecond, byBoth, bySecond]
    rw [hcompare] at hranking
    refine ⟨order, fun order' => ⟨fun h => h.unique hranking, ?_⟩, hcolumns,
      Table.rows_of_gathered hcolumns hne⟩
    rintro rfl
    exact hranking
  · have htwice := hrun [up, up]
    have hcompare : rerankAll [up, up] t compare = rerankAll [up] t compare := by
      simp only [rerankAll, List.foldl_cons, List.foldl_nil,
        rerank_of_column?_eq_some (d := up) hfirst]
      exact compareLex_compareLex _ _
    rw [hcompare] at htwice
    exact htwice.columns_eq (hrun [up])
  · obtain ⟨order, hranking, hcolumns⟩ := hrun [down, down]
    have hcompare : rerankAll [down, down] t compare =
        compareLex (fun i j => compareCells keys j i) compare := by
      simp only [rerankAll, List.foldl_cons, List.foldl_nil,
        rerank_of_column?_eq_some (d := down) hfirst]
      exact orient_orient_descending _ _
    rw [hcompare] at hranking
    have hsort : IsStableSort (fun i j => compareCells keys j i) (List.range t.rowCount) _ :=
      isStableSort_mergeSort _
    have horder := hranking.unique ((IsRanking.range _).sort hsort)
    refine ⟨order, ?_, hcolumns, Table.rows_of_gathered hcolumns hne⟩
    rw [horder]
    exact hsort

/-- Sorted by two columns in descending order, the tied rows are back from top to bottom. -/
theorem sort_sort_tied :
    let first : Direction := ⟨"key", .descending⟩
    let second : Direction := ⟨"id", .descending⟩
    let catalog := Catalog.empty {}
    let sorted (d : Direction) (u : Table) := (d.sort catalog "tied" u).value.table
    tied.validate = .ok () ∧ (tied.column? first.column).isSome ∧
    (tied.column? second.column).isSome ∧
    (sorted first (sorted second tied)).rows =
      [[.int 2, .str "b"], [.int 1, .str "a"], [.bool true, .str "c"]] := by
  intro first second catalog sorted
  have hfirst : tied.column? first.column = some [.int 1, .int 2, .bool true] := column?_tied_key
  have hsecond : tied.column? second.column = some [.str "a", .str "b", .str "c"] := by
    rw [Table.column?_eq_some_iff, columns_tied]
    simp [second]
  obtain ⟨order, hunique, -, hrows⟩ := (sort_sort validate_tied hfirst hsecond catalog "tied").1
  rw [rowCount_tied] at hunique
  have horder : [1, 0, 2] = order := (hunique _).1 ⟨by decide, by decide +kernel⟩
  refine ⟨validate_tied, by rw [hfirst]; rfl, by rw [hsecond]; rfl, ?_⟩
  rw [hrows, ← horder, funext tied.cellsAt_eq, columns_tied]
  rfl

end Direction
end TableQuery
