/-
# Filtering by one condition after the other

The first filter changes what the second one sees: the column of the second condition has lost
cells, and it may have been cut off where the flags of the first one end. Still every cell that is
left meets the flag of its own height, since both columns have lost the same heights above it
(`Table.keepFlagged_keepFlagged`). So two filters are one, by the flags that are set for both
conditions (`Condition.select_select`). It does not matter which condition comes first, nor how
often one comes, even if columns differ in length or are missing.
-/

import TableQuery.Proofs.Direction.Ranking
import TableQuery.Proofs.Query.Meaning

namespace TableQuery

variable {t : Table}

/-! ### Changing cells twice -/

namespace Table

theorem mapColumns_congr {f g : List Value → List Value}
    (h : ∀ c ∈ t.columns, f c.values = g c.values) : t.mapColumns f = t.mapColumns g := by
  refine congrArg ofColumns (List.map_congr_left fun c hc => ?_)
  rw [h c (Array.mem_toList_iff.1 hc)]

theorem mapColumns_mapColumns (t : Table) (f g : List Value → List Value) :
    (t.mapColumns f).mapColumns g = t.mapColumns fun values => g (f values) := by
  rw [mapColumns, columns_mapColumns, Array.toList_map, List.map_map]
  rfl

/-- **Cells that are left meet their own flags,** computed from cells that are left. -/
theorem keepFlagged_keepFlagged (test : Value → Bool) (flags : List Bool)
    (cells values : List Value) :
    keepFlagged ((keepFlagged flags cells).map test) (keepFlagged flags values) =
      keepFlagged (List.zipWith (· && ·) flags (cells.map test)) values := by
  induction flags generalizing cells values with
  | nil => simp
  | cons flag flags ih =>
    cases cells with
    | nil => simp
    | cons cell cells =>
      cases values with
      | nil => simp
      | cons value values => cases flag <;> simp [ih]

end Table

/-! ### Selecting twice -/

namespace Condition

/-- A filter drops the cells that the next condition tests from its column as from any. -/
theorem cells_select (c c' : Condition) (t : Table) :
    c'.cells (c.select t) = Table.keepFlagged (c.flags t) (c'.cells t) := by
  rw [cells, select, Table.filterRows, Table.column?_mapColumns, cells]
  cases t.column? c'.column with
  | none => simp
  | some cells => rfl

/-- **Two filters are one** by the flags that are set for both conditions. -/
theorem select_select (c c' : Condition) (t : Table) :
    c'.select (c.select t) = t.filterRows (List.zipWith (· && ·) (c.flags t) (c'.flags t)) := by
  rw [select, flags_eq, cells_select, select, Table.filterRows, Table.filterRows,
    Table.mapColumns_mapColumns, c'.flags_eq]
  exact Table.mapColumns_congr fun column _ =>
    Table.keepFlagged_keepFlagged c'.test (c.flags t) (c'.cells t) column.values

/-- **Filters commute.** -/
theorem select_comm (c c' : Condition) (t : Table) :
    c'.select (c.select t) = c.select (c'.select t) := by
  rw [select_select, select_select, List.zipWith_comm_of_comm Bool.and_comm]

/-- **Filtering once more changes nothing.** -/
theorem select_self (c : Condition) (t : Table) : c.select (c.select t) = c.select t := by
  rw [select_select, List.zipWith_self]
  simp [select]

/-! ### Any number of conditions -/

/-- Filters by each of the conditions in turn. -/
def selectAll (cs : List Condition) (t : Table) : Table := cs.foldl (fun u c => c.select u) t

theorem selectAll_append (cs cs' : List Condition) (t : Table) :
    selectAll (cs ++ cs') t = selectAll cs' (selectAll cs t) := List.foldl_append

theorem selectAll_perm {cs cs' : List Condition} (h : cs.Perm cs') (t : Table) :
    selectAll cs t = selectAll cs' t :=
  h.foldl_eq' (fun c _ c' _ u => select_comm c c' u) t

/-- A filter that comes again later is not needed before. -/
theorem selectAll_select_of_mem {c : Condition} {cs : List Condition} (h : c ∈ cs) (t : Table) :
    selectAll cs (c.select t) = selectAll cs t := by
  induction cs generalizing t with
  | nil => cases h
  | cons c' cs ih =>
    change selectAll cs (c'.select (c.select t)) = selectAll cs (c'.select t)
    rcases List.mem_cons.1 h with rfl | h
    · rw [select_self]
    · rw [select_comm, ih h]

theorem selectAll_selectAll_of_subset {cs cs' : List Condition} (h : cs ⊆ cs') (t : Table) :
    selectAll cs' (selectAll cs t) = selectAll cs' t := by
  induction cs generalizing t with
  | nil => rfl
  | cons c cs ih =>
    obtain ⟨hc, hcs⟩ := List.cons_subset.1 h
    exact (ih hcs (c.select t)).trans (selectAll_select_of_mem hc t)

/-- **Filtering depends on which conditions there are,** and not on their order or how often they
come. -/
theorem selectAll_congr {cs cs' : List Condition} (h : ∀ c, c ∈ cs ↔ c ∈ cs') (t : Table) :
    selectAll cs t = selectAll cs' t :=
  calc selectAll cs t
      = selectAll cs (selectAll cs' t) :=
        (selectAll_selectAll_of_subset (fun c => (h c).2) t).symm
    _ = selectAll cs' (selectAll cs t) := by
        rw [← selectAll_append, ← selectAll_append, selectAll_perm List.perm_append_comm]
    _ = selectAll cs' t := selectAll_selectAll_of_subset (fun c => (h c).1) t

/-- **Filters commute, and filtering twice is filtering once,** on every table, whatever the lengths
of its columns and whether the columns of the conditions are there: the outcomes are one table. On a
valid table with both columns they keep the rows that satisfy both conditions, from top to
bottom. -/
theorem filter_comm_idem (c c' : Condition) (catalog : Catalog) (source : String) (t : Table) :
    let filtered (c : Condition) (u : Table) := (c.filter catalog source u).value.table
    filtered c' (filtered c t) = filtered c (filtered c' t) ∧
    filtered c (filtered c t) = filtered c t ∧
    (t.validate = .ok () → c.column ∈ t.columnNames → c'.column ∈ t.columnNames →
      (filtered c' (filtered c t)).rows = t.rows.filter fun row =>
        c.test (cellUnder t.columnNames c.column row) &&
          c'.test (cellUnder t.columnNames c'.column row)) := by
  intro filtered
  have hfiltered : ∀ c u, filtered c u = c.select u := by
    intro c u
    simp only [filtered, value_filter]
  simp only [hfiltered]
  have hcomm : selectAll [c, c'] t = selectAll [c', c] t := selectAll_congr (by simp [or_comm]) t
  have hself : selectAll [c, c] t = selectAll [c] t := selectAll_congr (by simp) t
  refine ⟨hcomm, hself, fun hvalid hc hc' => ?_⟩
  have ht := (t.validate_eq_ok_iff).1 hvalid
  rw [rows_select _ (c.isRectangular_select ht), c.rows_select ht, columnNames_select, keptRows,
    keptRows, if_pos hc, if_pos hc', List.filter_filter]
  exact List.filter_congr fun row _ => Bool.and_comm _ _

open Direction in
/-- Two columns, a condition on each: one row satisfies both. -/
theorem filter_comm_idem_tied :
    let c : Condition := ⟨"key", .notEqual, .int 2⟩
    let c' : Condition := ⟨"id", .greater, .str "a"⟩
    let filtered (c : Condition) (u : Table) :=
      (c.filter (Catalog.empty {}) "tied" u).value.table
    (tied.validate = .ok () ∧ c.column ∈ tied.columnNames ∧ c'.column ∈ tied.columnNames) ∧
    (filtered c' (filtered c tied)).rows = [[.bool true, .str "c"]] ∧
    (filtered c (filtered c' tied)).rows = [[.bool true, .str "c"]] := by
  intro c c' filtered
  have hc : c.column ∈ tied.columnNames := by simp [columnNames_tied, c]
  have hc' : c'.column ∈ tied.columnNames := by simp [columnNames_tied, c']
  obtain ⟨hcomm, -, hrows⟩ := filter_comm_idem c c' (Catalog.empty {}) "tied" tied
  have hboth : (filtered c' (filtered c tied)).rows = [[.bool true, .str "c"]] := by
    rw [hrows validate_tied hc hc', columnNames_tied, rows_tied]
    rfl
  exact ⟨⟨validate_tied, hc, hc'⟩, hboth, (congrArg Table.rows hcomm).symm.trans hboth⟩

end Condition
end TableQuery
