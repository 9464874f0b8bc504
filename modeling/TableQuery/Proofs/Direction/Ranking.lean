/-
# Rankings

A comparison of positions that tells any two of them apart puts the positions below a number in one
order, their ranking (`IsRanking.unique`). Sorting a ranking by the cells of a column ranks the
positions by these cells, and those with equal cells as before (`IsRanking.sort`). Reading a ranking
from its other end ranks by the reverse of the comparison, ties included (`IsRanking.orient`).

Sorting starts from the positions as they are. So ascending order ranks by cells and then from top
to bottom, and descending order by the exact reverse of that (`Direction.isRanking_positions`).
-/

import TableQuery.Proofs.Direction.Positions

namespace TableQuery

variable {cmp key tie : ℕ → ℕ → Ordering} {n : ℕ} {order order' : List ℕ} {cells : List Value}

/-- The positions below `n` from the first to the last by a comparison. -/
structure IsRanking (cmp : ℕ → ℕ → Ordering) (n : ℕ) (order : List ℕ) : Prop where
  perm : order.Perm (List.range n)
  increasing : order.Pairwise fun i j => cmp i j = .lt

/-- What is first by a key and a tie break is not behind by the key, and first by the tie break
where the keys are equal. -/
theorem compareLex_eq_lt_iff {i j : ℕ} :
    compareLex key tie i j = .lt ↔ key i j ≠ .gt ∧ (key i j = .eq → tie i j = .lt) := by
  rw [compareLex]
  cases key i j <;> simp

namespace SortOrder

/-- A comparison as an order reads it: as it is, or from the other side. -/
def orient (cmp : ℕ → ℕ → Ordering) : SortOrder → ℕ → ℕ → Ordering
  | .ascending => cmp
  | .descending => fun i j => cmp j i

instance [Std.OrientedCmp cmp] (o : SortOrder) : Std.OrientedCmp (o.orient cmp) :=
  match o with
  | .ascending => inferInstanceAs (Std.OrientedCmp cmp)
  | .descending => inferInstanceAs (Std.OrientedCmp fun i j => cmp j i)

end SortOrder

namespace IsRanking

/-- Positions as they are are ranked by themselves. -/
theorem range (n : ℕ) : IsRanking compare n (List.range n) where
  perm := List.Perm.refl _
  increasing := List.pairwise_lt_range.imp Nat.compare_eq_lt.2

/-- **A comparison ranks positions in one way.** -/
theorem unique [Std.OrientedCmp cmp] (h : IsRanking cmp n order) (h' : IsRanking cmp n order') :
    order = order' := by
  refine List.Perm.eq_of_pairwise ?_ h.increasing h'.increasing (h.perm.trans h'.perm.symm)
  intro i j _ _ hij hji
  have hswap : cmp i j = (cmp j i).swap := Std.OrientedCmp.eq_swap
  rw [hij, hji] at hswap
  cases hswap

/-- **Sorting a ranking ranks by the key,** and by the old comparison where keys are equal. -/
theorem sort [Std.TransCmp key] {sorted : List ℕ} (h : IsRanking tie n order)
    (hsort : IsStableSort key order sorted) : IsRanking (compareLex key tie) n sorted where
  perm := hsort.perm.trans h.perm
  increasing := (hsort.pairwise h.increasing).imp compareLex_eq_lt_iff.2

/-- **From the other end a ranking is one by the reverse.** -/
theorem orient (h : IsRanking cmp n order) (o : SortOrder) :
    IsRanking (o.orient cmp) n (o.fromLeast order) := by
  cases o with
  | ascending => exact h
  | descending => exact ⟨order.reverse_perm.trans h.perm, List.pairwise_reverse.2 h.increasing⟩

end IsRanking

namespace Direction

/-- **Ascending positions are ranked by cells,** equal ones from top to bottom. -/
theorem isRanking_ascendingPositions (cells : List Value) :
    IsRanking (compareLex (compareCells cells) compare) cells.length (ascendingPositions cells) :=
  (IsRanking.range _).sort (isStableSort_ascendingPositions cells)

/-- A direction reads that ranking from the end that its order says. -/
theorem isRanking_positions (d : Direction) (cells : List Value) :
    IsRanking (d.order.orient (compareLex (compareCells cells) compare)) cells.length
      (d.positions cells) := by
  rw [positions_eq]
  exact (isRanking_ascendingPositions cells).orient d.order

/-- In descending order cells go down, equal ones from bottom to top. -/
theorem pairwise_positions_of_descending {d : Direction} (h : d.order = .descending)
    (cells : List Value) :
    (d.positions cells).Pairwise fun i j => compareCells cells i j ≠ .lt ∧
      (compareCells cells i j = .eq → j < i) := by
  have hranking := isRanking_positions d cells
  rw [h] at hranking
  refine hranking.increasing.imp fun {i j} hlt => ?_
  obtain ⟨hle, htie⟩ := compareLex_eq_lt_iff.1 hlt
  have hswap : compareCells cells i j = (compareCells cells j i).swap := Std.OrientedCmp.eq_swap
  rw [hswap, ne_eq, Ordering.swap_eq_lt, Ordering.swap_eq_eq]
  exact ⟨hle, fun heq => Nat.compare_eq_lt.1 (htie heq)⟩

/-- The ranking of cells, equal ones from top to bottom, in terms of the list. -/
theorem eq_ascendingPositions_iff :
    order = ascendingPositions cells ↔ order.Perm (List.range cells.length) ∧
      order.Pairwise fun i j => compareCells cells i j ≠ .gt ∧
        (compareCells cells i j = .eq → i < j) := by
  have hranking := isRanking_ascendingPositions cells
  have hstep : ∀ i j : ℕ, compareLex (compareCells cells) compare i j = .lt ↔
      compareCells cells i j ≠ .gt ∧ (compareCells cells i j = .eq → i < j) := by
    intro i j
    rw [compareLex_eq_lt_iff, Nat.compare_eq_lt]
  constructor
  · rintro rfl
    exact ⟨hranking.perm, hranking.increasing.imp (hstep _ _).1⟩
  · rintro ⟨hperm, hpairwise⟩
    exact IsRanking.unique ⟨hperm, hpairwise.imp (hstep _ _).2⟩ hranking

variable {t : Table}

theorem value_permutation_of_column?_eq_some {d : Direction} (h : t.column? d.column = some cells)
    (catalog : Catalog) (source : String) :
    (d.permutation catalog source t).value = (d.positions cells, none) := by
  rw [value_permutation, rowOrder, h, missing_of_column?_eq_some h]
  rfl

theorem value_permutation_of_column?_eq_none {d : Direction} (h : t.column? d.column = none)
    (catalog : Catalog) (source : String) :
    (d.permutation catalog source t).value =
      (List.range t.rowCount, some (.missingColumn source d.column)) := by
  rw [value_permutation, rowOrder, h, missing_of_column?_eq_none h]
  rfl

/-- Sorting gathers every column at the positions of the permutation. -/
theorem columns_sort (d : Direction) (catalog : Catalog) (source : String) (t : Table) :
    (d.sort catalog source t).value.table.columns =
      t.gathered (d.permutation catalog source t).value.1 := by
  rw [value_sort, value_permutation, columns_arrange]

/-- **Sorting computes the one right permutation,** for every table. In ascending order it is the
only one that puts the cells in order and leaves equal ones from top to bottom. In descending order
it is that list read backwards, so equal cells stand from bottom to top, and every sorted column is
the reverse of the ascending one. Nothing is reported. Without the column all positions stay, in
both orders, and the diagnostic says so. In any case the sorted columns have the cells at the
positions of the permutation. -/
theorem permutation_unique (catalog : Catalog) (source : String) (t : Table) (column : String) :
    let up : Direction := ⟨column, .ascending⟩
    let down : Direction := ⟨column, .descending⟩
    let ascending := (up.permutation catalog source t).value
    let descending := (down.permutation catalog source t).value
    (∀ cells, t.column? column = some cells →
      ascending.2 = none ∧ descending.2 = none ∧
      (∀ order : List ℕ, order = ascending.1 ↔ order.Perm (List.range cells.length) ∧
        order.Pairwise fun i j => compareCells cells i j ≠ .gt ∧
          (compareCells cells i j = .eq → i < j)) ∧
      descending.1 = ascending.1.reverse ∧
      descending.1.Pairwise (fun i j => compareCells cells i j ≠ .lt ∧
        (compareCells cells i j = .eq → j < i)) ∧
      (down.sort catalog source t).value.table.columns =
        (up.sort catalog source t).value.table.columns.map
          fun c => { c with values := c.values.reverse }) ∧
    (t.column? column = none →
      ascending = (List.range t.rowCount, some (.missingColumn source column)) ∧
      descending = (List.range t.rowCount, some (.missingColumn source column))) ∧
    (up.sort catalog source t).value.table.columns = t.gathered ascending.1 ∧
    (down.sort catalog source t).value.table.columns = t.gathered descending.1 := by
  intro up down ascending descending
  refine ⟨?_, ?_, up.columns_sort catalog source t, down.columns_sort catalog source t⟩
  · intro cells h
    have hup : ascending = (ascendingPositions cells, none) :=
      value_permutation_of_column?_eq_some h catalog source
    have hdown : descending = ((ascendingPositions cells).reverse, none) :=
      value_permutation_of_column?_eq_some h catalog source
    have hreverse : descending.1 = ascending.1.reverse := by rw [hup, hdown]
    have hsorted : (down.sort catalog source t).value.table.columns =
        (up.sort catalog source t).value.table.columns.map
          fun c => { c with values := c.values.reverse } := by
      rw [columns_sort, columns_sort, ← Table.gathered_reverse]
      exact congrArg t.gathered hreverse
    refine ⟨by rw [hup], by rw [hdown], fun order => ?_, hreverse, ?_, hsorted⟩
    · rw [hup]
      exact eq_ascendingPositions_iff
    · rw [hdown]
      exact pairwise_positions_of_descending (d := down) rfl cells
  · intro h
    exact ⟨value_permutation_of_column?_eq_none h catalog source,
      value_permutation_of_column?_eq_none h catalog source⟩

/-- Two of three keys are equal, though one is a number and one a boolean. -/
def tied : Table := .ofColumns
  [⟨"key", [.int 1, .int 2, .bool true]⟩, ⟨"id", [.str "a", .str "b", .str "c"]⟩]

theorem columns_tied :
    tied.columns =
      #[⟨"key", [.int 1, .int 2, .bool true]⟩, ⟨"id", [.str "a", .str "b", .str "c"]⟩] :=
  Table.columns_ofColumns (by decide)

theorem columnNames_tied : tied.columnNames = ["key", "id"] := by
  rw [Table.columnNames, columns_tied]
  rfl

theorem rowCount_tied : tied.rowCount = 3 := by
  rw [Table.rowCount, columns_tied]
  rfl

theorem rows_tied :
    tied.rows = [[.int 1, .str "a"], [.int 2, .str "b"], [.bool true, .str "c"]] := by
  rw [Table.rows, rowCount_tied, funext tied.cellsAt_eq, columns_tied]
  rfl

theorem validate_tied : tied.validate = .ok () := by
  rw [Table.validate_eq_ok_iff, Table.IsRectangular, Table.rowCount, columns_tied]
  decide

theorem column?_tied_key : tied.column? "key" = some [.int 1, .int 2, .bool true] := by
  rw [Table.column?_eq_some_iff, columns_tied]
  simp

/-- Equal keys from top to bottom in ascending order, from bottom to top in descending order, and
all columns with them. -/
theorem permutation_unique_tied :
    let up : Direction := ⟨"key", .ascending⟩
    let down : Direction := ⟨"key", .descending⟩
    let catalog := Catalog.empty {}
    tied.column? "key" = some [.int 1, .int 2, .bool true] ∧
    (up.permutation catalog "tied" tied).value = ([0, 2, 1], none) ∧
    (down.permutation catalog "tied" tied).value = ([1, 2, 0], none) ∧
    (up.sort catalog "tied" tied).value.table.columns =
      #[⟨"key", [.int 1, .bool true, .int 2]⟩, ⟨"id", [.str "a", .str "c", .str "b"]⟩] ∧
    (down.sort catalog "tied" tied).value.table.columns =
      #[⟨"key", [.int 2, .bool true, .int 1]⟩, ⟨"id", [.str "b", .str "c", .str "a"]⟩] := by
  intro up down catalog
  obtain ⟨hpresent, -, hupSorted, hdownSorted⟩ := permutation_unique catalog "tied" tied "key"
  obtain ⟨hup, hdown, horder, hreverse, -⟩ := hpresent _ column?_tied_key
  have hfirst : [0, 2, 1] = (up.permutation catalog "tied" tied).value.1 := by
    rw [horder]
    decide
  rw [← hfirst] at hreverse hupSorted
  rw [hreverse] at hdownSorted
  refine ⟨column?_tied_key, Prod.ext hfirst.symm hup, Prod.ext hreverse hdown, ?_, ?_⟩
  · rw [hupSorted, Table.gathered, columns_tied]
    simp [cellAt]
  · rw [hdownSorted, Table.gathered, columns_tied]
    simp [cellAt]

end Direction
end TableQuery
