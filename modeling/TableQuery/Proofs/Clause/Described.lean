/-
# Conditions and directions describe what filters and sortings do

A condition that stands alone gives a column of flags, a direction a column of row positions. The
filter and the sorting do not read these tables; they work the same out again. On a valid selection
they agree with them row by row (`Clause.filter_sorting_described`): the filter keeps the rows whose
flag is set, and row by row the sorting has the row at the position given. They miss the same
names, too.

Where the named column is missing there are no flags, so no row is kept, and every position is its
own, so every row stays.
-/

import TableQuery.Proofs.Clause.Standalone
import TableQuery.Proofs.Direction.Ranking
import TableQuery.Proofs.Query.Meaning

namespace TableQuery

variable {t : Table}

namespace Table

/-- **Filtering a valid table keeps the rows whose flags are set,** from top to bottom, and those
below the last flag are not kept. -/
theorem rows_filterRows_eq_map_range (ht : t.IsRectangular) (flags : List Bool) :
    (t.filterRows flags).rows =
      ((List.range t.rowCount).filter fun i => flags[i]? = some true).map t.cellsAt := by
  by_cases hne : t.columns = #[]
  · have hcount : t.rowCount = 0 := by simp [rowCount, hne]
    rw [hcount, rows_of_columns_eq (by simp [filterRows, hne])]
    rfl
  · exact (gathers_setFlags ht flags).rows hne

end Table

/-- **Sorting a valid table puts at each height the row at the position given for it.** -/
theorem Direction.row?_arrange (d : Direction) (ht : t.IsRectangular) {i : ℕ}
    (hi : i < t.rowCount) :
    ∃ k < t.rowCount, (d.rowOrder t)[i]? = some k ∧ (d.arrange t).row? i = t.row? k := by
  have hlength := d.length_rowOrder ht
  have hlt : i < (d.rowOrder t).length := hlength.symm ▸ hi
  have hk : (d.rowOrder t)[i] < t.rowCount :=
    lt_of_mem_rowOrder (fun c hc => (ht c hc).le) (List.getElem_mem hlt)
  refine ⟨_, hk, List.getElem?_eq_getElem hlt, ?_⟩
  rw [← Table.getElem?_rows, d.rows_arrange, List.getElem?_map, List.getElem?_eq_getElem hlt,
    Option.map_some, Table.row?, if_pos hk]

/-- A position in a table of up to two to the power 63 rows is a signed word. -/
theorem toInt_ofNat_of_lt {k n : ℕ} (hk : k < n) (hn : n ≤ 2 ^ 63) : (Int64.ofNat k).toInt = k :=
  Int64.toInt_ofNat_of_lt (by omega)

/-- Without a selection that is reported, and then the column. -/
theorem Catalog.missingSelected_of_get?_eq_none {catalog : Catalog}
    (h : catalog.get? selection = none) (column : String) :
    catalog.missingSelected column =
      [.missingTable selection, .missingColumn selection column] := by
  have hnames : catalog.selected.columnNames = [] := by
    rw [selected, tableAt, h]
    rfl
  have hmissing : missing selection [] (some column) = [.missingColumn selection column] := by
    simp [missing]
  have hcontains : ¬catalog.contains selection = true := by
    rw [contains_eq_isSome_get?, h]
    exact Bool.false_ne_true
  rw [missingSelected, hnames, hmissing, missingAt, if_neg hcontains]
  rfl

namespace Clause

/-- **The tables of flags and of positions describe the filter and the sorting.** Of a valid
selection, the filter keeps from top to bottom the rows at whose height the column of flags holds
`true`. The column of positions has a cell for each row, and each row of the sorting is the row of
the selection at the position in its cell. Positions are written as words of 64 bits, which hold
them in any table of up to `2 ^ 63` rows. The description and what it describes report the same, and
without a selection they report that, and the column. -/
theorem filter_sorting_described (c : Condition) (d : Direction) (catalog : Catalog) :
    let filtered := ((filter c).evaluate catalog).value
    let flagged := ((condition c).evaluate catalog).value
    let sorted := ((sorting d).evaluate catalog).value
    let ordered := ((direction d).evaluate catalog).value
    (∀ t, catalog.get? Catalog.selection = some t → t.validate = .ok () →
      (∃ flags, flagged.table.column? Condition.classifierColumn = some flags ∧
        filtered.table.rows = ((List.range t.rowCount).filter fun i =>
          flags[i]?.bind Value.bool? = some true).map t.cellsAt) ∧
      ∃ order, ordered.table.column? Direction.orderColumn = some order ∧
        order.length = t.rowCount ∧ sorted.table.rowCount = t.rowCount ∧
        ∀ i < t.rowCount, ∃ k < t.rowCount, order[i]? = some (.int (Int64.ofNat k)) ∧
          sorted.table.row? i = t.row? k ∧
          (t.rowCount ≤ 2 ^ 63 → (Int64.ofNat k).toInt = k)) ∧
    flagged.diagnostics = filtered.diagnostics ∧ ordered.diagnostics = sorted.diagnostics ∧
    (catalog.get? Catalog.selection = none →
      filtered.diagnostics = [.missingTable Catalog.selection,
        .missingColumn Catalog.selection c.column] ∧
      sorted.diagnostics = [.missingTable Catalog.selection,
        .missingColumn Catalog.selection d.column]) := by
  intro filtered flagged sorted ordered
  have hfiltered : filtered = _ := c.value_filterSelection catalog
  have hflagged : flagged = _ := c.value_classifySelection catalog
  have hsorted : sorted = _ := d.value_sortSelection catalog
  have hordered : ordered = _ := d.value_orderSelection catalog
  rw [hfiltered, hflagged, hsorted, hordered]
  refine ⟨fun t hselected hvalid => ?_, rfl, rfl, fun hnone => ?_⟩
  · have ht := (t.validate_eq_ok_iff).1 hvalid
    have ht' : catalog.selected = t := by
      rw [Catalog.selected, Catalog.tableAt, hselected, Option.getD_some]
    rw [ht']
    refine ⟨⟨_, Table.column?_withColumn_empty _ _, ?_⟩, _, Table.column?_withColumn_empty _ _,
      ?_, ?_, fun i hi => ?_⟩
    · rw [Condition.select, Table.rows_filterRows_eq_map_range ht]
      congr 2
      funext i
      rw [List.getElem?_map]
      cases (c.flags t)[i]? <;> rfl
    · rw [List.length_map, List.length_map, d.length_rowOrder ht]
    · rw [d.rowCount_arrange, d.length_rowOrder ht]
    · obtain ⟨k, hk, horder, hrow⟩ := d.row?_arrange ht hi
      refine ⟨k, hk, ?_, hrow, toInt_ofNat_of_lt hk⟩
      rw [List.getElem?_map, List.getElem?_map, horder]
      rfl
  · exact ⟨Catalog.missingSelected_of_get?_eq_none hnone c.column,
      Catalog.missingSelected_of_get?_eq_none hnone d.column⟩

open Direction in
/-- Two rows are kept, and the second row comes first in descending order. Of a catalog without a
selection both are reported. -/
theorem filter_sorting_described_tied :
    let c : Condition := ⟨"key", .notEqual, .int 2⟩
    let d : Direction := ⟨"key", .descending⟩
    let catalog := (Catalog.empty {}).insert Catalog.selection tied
    (catalog.get? Catalog.selection = some tied ∧ tied.validate = .ok () ∧
      (Catalog.empty {}).get? Catalog.selection = none) ∧
    ((filter c).evaluate catalog).value.table.rows = [[.int 1, .str "a"], [.bool true, .str "c"]] ∧
    ((sorting d).evaluate catalog).value.table.row? 0 = some [.int 2, .str "b"] ∧
    ((sorting d).evaluate (.empty {})).value.diagnostics =
      [.missingTable "selection", .missingColumn "selection" "key"] := by
  intro c d catalog
  have hget : catalog.get? Catalog.selection = some tied := Catalog.get?_insert_self _ _ _
  have hnone : (Catalog.empty {}).get? Catalog.selection = none := Catalog.get?_empty _ _
  have hselected : catalog.selected = tied := Catalog.selected_insert_selection _ _
  have hcount : tied.rowCount = 3 := rowCount_tied
  obtain ⟨hvalid, -⟩ := filter_sorting_described c d catalog
  obtain ⟨⟨flags, hflags, hfiltered⟩, order, horder, -, -, hsorted⟩ :=
    hvalid tied hget validate_tied
  obtain ⟨-, -, -, hmissing⟩ := filter_sorting_described c d (.empty {})
  refine ⟨⟨hget, validate_tied, hnone⟩, ?_, ?_, (hmissing hnone).2⟩
  · have hflags' : flags = [.bool true, .bool false, .bool true] := by
      rw [evaluate, c.value_classifySelection, Table.column?_withColumn_empty, hselected,
        Condition.flags, column?_tied_key] at hflags
      exact (Option.some.inj hflags).symm
    rw [hfiltered, hflags', hcount, funext tied.cellsAt_eq, columns_tied]
    rfl
  · obtain ⟨k, hk, hcell, hrow, hword⟩ := hsorted 0 (by omega)
    have hascending : [0, 2, 1] = ascendingPositions [.int 1, .int 2, .bool true] :=
      eq_ascendingPositions_iff.2 (by decide)
    have hpositions : d.rowOrder tied = [1, 2, 0] := by
      rw [rowOrder, column?_tied_key]
      exact congrArg List.reverse hascending.symm
    rw [evaluate, d.value_orderSelection, Table.column?_withColumn_empty, hselected,
      hpositions] at horder
    obtain rfl := Option.some.inj horder
    have hfirst : Int64.ofNat k = 1 := (Value.int.inj (Option.some.inj hcell)).symm
    have hk1 : k = 1 := by
      have htoInt := hword (by omega)
      rw [hfirst] at htoInt
      exact Int.ofNat.inj htoInt.symm
    rw [hrow, hk1, Table.row?, hcount, if_pos (by decide), tied.cellsAt_eq, columns_tied]
    rfl

end Clause
end TableQuery
