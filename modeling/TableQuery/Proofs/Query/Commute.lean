/-
# Stages that commute

A condition looks at each row for itself, so it keeps the same rows wherever they stand. Rows that
it drops are missing from the sorted list and from nowhere else: dropping them leaves a stable sort
of those that are kept (`Direction.IsOrdering.keptRows`). A valid table can therefore be filtered
before or after sorting, also where one of the columns is missing.
-/

import TableQuery.Proofs.Direction.Ranking
import TableQuery.Proofs.Query.Meaning

namespace TableQuery

variable {t : Table} {names : List String} {rows sorted : List (List Value)}

namespace Direction

variable {d : Direction}

/-- **Dropping rows leaves the others in order.** -/
theorem IsOrdering.filter (h : d.IsOrdering names rows sorted) (p : List Value → Bool) :
    d.IsOrdering names (rows.filter p) (sorted.filter p) := by
  by_cases hmem : d.column ∈ names
  · rw [isOrdering_iff_of_mem hmem] at h ⊢
    rw [SortOrder.fromLeast_filter]
    exact IsStableSort.filter h p
  · rw [isOrdering_iff_of_not_mem hmem] at h ⊢
    rw [h]

/-- **A condition keeps rows in order,** also none of them. -/
theorem IsOrdering.keptRows (h : d.IsOrdering names rows sorted) (c : Condition) :
    d.IsOrdering names (c.keptRows names rows) (c.keptRows names sorted) := by
  rw [Condition.keptRows, Condition.keptRows]
  split
  · exact h.filter _
  · have hnone := h.filter fun _ => false
    rwa [List.filter_false, List.filter_false] at hnone

end Direction

namespace Query

/-- **Filtering and sorting commute** on a valid table, for every condition and every direction,
whether their columns are there or not: the same columns with the same cells in the same order,
ties included. -/
theorem filter_sort_comm (hvalid : t.validate = .ok ()) (c : Condition) (d : Direction)
    (catalog : Catalog) (source : String) :
    let filtered (u : Table) := (c.filter catalog source u).value.table
    let sorted (u : Table) := (d.sort catalog source u).value.table
    (sorted (filtered t)).columns = (filtered (sorted t)).columns ∧
    (sorted (filtered t)).rows = (filtered (sorted t)).rows ∧
    (sorted (filtered t) == filtered (sorted t)) = true := by
  intro filtered sorted
  have hfiltered : ∀ u, filtered u = c.select u := by
    intro u
    simp only [filtered, Condition.value_filter]
  have hsorted : ∀ u, sorted u = d.arrange u := by
    intro u
    simp only [sorted, Direction.value_sort]
  rw [hfiltered, hsorted, hfiltered, hsorted]
  have ht := (t.validate_eq_ok_iff).1 hvalid
  have hnames : (d.arrange (c.select t)).columnNames = (c.select (d.arrange t)).columnNames := by
    simp
  have hrows : (d.arrange (c.select t)).rows = (c.select (d.arrange t)).rows := by
    have hbefore := d.isOrdering_arrange (c.isRectangular_select ht)
    have hafter := (d.isOrdering_arrange ht).keptRows c
    rw [Condition.columnNames_select, c.rows_select ht] at hbefore
    rw [c.rows_select (d.isRectangular_arrange t), Direction.columnNames_arrange]
    exact hbefore.unique hafter
  have hleft := d.isRectangular_arrange (c.select t)
  have hright := c.isRectangular_select (d.isRectangular_arrange t)
  refine ⟨Table.columns_eq_of_rows_eq hleft hright hnames hrows, hrows, ?_⟩
  rw [Table.beq_iff]
  exact Table.contents_eq_of_rows_eq hleft hright hnames hrows

open Direction in
/-- The rows with a tied key, in descending order: both ways turn them round. -/
theorem filter_sort_comm_tied :
    let catalog := Catalog.empty {}
    let filtered (u : Table) :=
      ((⟨"key", .notEqual, .int 2⟩ : Condition).filter catalog "tied" u).value.table
    let sorted (u : Table) :=
      ((⟨"key", .descending⟩ : Direction).sort catalog "tied" u).value.table
    tied.validate = .ok () ∧
    (filtered (sorted tied)).rows = [[.bool true, .str "c"], [.int 1, .str "a"]] ∧
    (sorted (filtered tied)).rows = [[.bool true, .str "c"], [.int 1, .str "a"]] ∧
    (sorted (filtered tied) == filtered (sorted tied)) = true := by
  intro catalog filtered sorted
  obtain ⟨-, hrows, hbeq⟩ :=
    filter_sort_comm validate_tied ⟨"key", .notEqual, .int 2⟩ ⟨"key", .descending⟩ catalog "tied"
  have hresult : (sorted (filtered tied)).rows = [[.bool true, .str "c"], [.int 1, .str "a"]] := by
    have ht := (tied.validate_eq_ok_iff).1 validate_tied
    have hordering := Direction.isOrdering_arrange ⟨"key", .descending⟩
      (Condition.isRectangular_select ⟨"key", .notEqual, .int 2⟩ ht)
    have hkept : Condition.keptRows ⟨"key", .notEqual, .int 2⟩ tied.columnNames tied.rows =
        [[.int 1, .str "a"], [.bool true, .str "c"]] := by
      rw [columnNames_tied, rows_tied]
      rfl
    have hmem : "key" ∈ tied.columnNames := Table.mem_columnNames_of_column? column?_tied_key
    rw [Condition.columnNames_select, Condition.rows_select _ ht, hkept] at hordering
    simp only [filtered, sorted, Condition.value_filter, value_sort]
    refine hordering.unique ((isOrdering_iff_of_mem hmem).2 ⟨List.Perm.refl _, ?_, fun _ => rfl⟩)
    rw [columnNames_tied]
    decide
  exact ⟨validate_tied, hrows ▸ hresult, hresult, hbeq⟩

end Query
end TableQuery
