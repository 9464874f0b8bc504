/-
# Running a query on its own result

A query that keeps the columns it filters and sorts by can run again on its own result, stored under
the name that it reads. All rows satisfy the condition by now (`Condition.Accepts`), and no column
is left out, so only sorting is to be done again, of a table that is in order already
(`Direction.InOrder`). In ascending order that changes nothing. In descending order it turns each
class of rows with equal keys round, and the next run turns it back.

The columns of the source may differ in length. Sorting then fills rows up with empty cells, but
never in the column of the condition: it has a cell for every flag, and rows without a flag are
dropped. So no row fails on the second run that has passed on the first.
-/

import TableQuery.Proofs.Condition.Successive
import TableQuery.Proofs.Projection.Pushdown
import TableQuery.Proofs.Query.Congruence

namespace TableQuery

variable {t : Table}

/-! ### Filtering what satisfies the condition -/

namespace Table

/-- With all flags set, and one for each cell, all cells are kept. -/
theorem keepFlagged_eq_self {flags : List Bool} {values : List Value}
    (hset : ∀ flag ∈ flags, flag = true) (hlength : values.length ≤ flags.length) :
    keepFlagged flags values = values := by
  have hall : ∀ p ∈ values.zip flags, p.2 = true := fun p hp => hset _ (List.of_mem_zip hp).2
  rw [keepFlagged, List.filter_eq_self.2 hall]
  exact List.map_fst_zip hlength

/-- Of a column with a cell for each flag as many cells are kept as of any. -/
theorem length_keepFlagged_le {flags : List Bool} {cells : List Value}
    (h : flags.length ≤ cells.length) (values : List Value) :
    (keepFlagged flags values).length ≤ (keepFlagged flags cells).length := by
  induction flags generalizing cells values with
  | nil => simp
  | cons flag flags ih =>
    cases cells with
    | nil => simp at h
    | cons cell cells =>
      cases values with
      | nil => simp
      | cons value values =>
        have hrest := ih (Nat.le_of_succ_le_succ h) values
        cases flag <;> simpa using hrest

/-- Flags of cells pick out the cells that pass the test. -/
theorem keepFlagged_map_self (test : Value → Bool) (cells : List Value) :
    keepFlagged (cells.map test) cells = cells.filter test := by
  induction cells with
  | nil => rfl
  | cons cell cells ih => rw [List.map_cons, keepFlagged_cons, ih, List.filter_cons]

end Table

namespace Condition

/-- All rows satisfy the condition: all cells pass its test, and no column is longer than these. -/
structure Accepts (c : Condition) (t : Table) : Prop where
  passes : ∀ cell ∈ c.cells t, c.test cell = true
  covers : ∀ column ∈ t.columns, column.length ≤ (c.cells t).length

variable {c : Condition}

/-- **Filtering what satisfies the condition changes nothing.** -/
theorem Accepts.contents_select (h : c.Accepts t) : (c.select t).contents = t.contents := by
  have hset : ∀ flag ∈ (c.cells t).map c.test, flag = true := by
    intro flag hflag
    obtain ⟨cell, hcell, rfl⟩ := List.mem_map.1 hflag
    exact h.passes cell hcell
  have hentry : ∀ e ∈ t.entries, (e.1, Table.keepFlagged ((c.cells t).map c.test) e.2) = e := by
    intro e he
    obtain ⟨column, hcolumn, rfl⟩ := List.mem_map.1 he
    have hlength := h.covers column (Array.mem_toList_iff.1 hcolumn)
    rw [Table.keepFlagged_eq_self hset (by rwa [List.length_map])]
  rw [Table.contents, select, Table.filterRows, flags_eq, Table.entries_mapColumns,
    List.map_congr_left hentry, List.map_id', Table.contents]

theorem cells_select_self (c : Condition) (t : Table) :
    c.cells (c.select t) = (c.cells t).filter c.test := by
  rw [cells_select, flags_eq, Table.keepFlagged_map_self]

/-- **What a condition has selected satisfies it.** -/
theorem accepts_select (c : Condition) (t : Table) : c.Accepts (c.select t) := by
  constructor
  · intro cell hcell
    rw [cells_select_self] at hcell
    exact (List.mem_filter.1 hcell).2
  · intro column hcolumn
    rw [select, Table.filterRows, Table.columns_mapColumns] at hcolumn
    obtain ⟨old, -, rfl⟩ := Array.mem_map.1 hcolumn
    have hlength : (c.flags t).length ≤ (c.cells t).length := by rw [flags_eq, List.length_map]
    rw [cells_select]
    exact Table.length_keepFlagged_le hlength old.values

end Condition

/-! ### Sorting what satisfies the condition -/

namespace Condition.Accepts

variable {c : Condition}

/-- Where nothing is tested there is nothing to sort. -/
theorem cells_arrange (h : c.Accepts t) (d : Direction) :
    c.cells (d.arrange t) = (d.rowOrder t).map (cellAt (c.cells t)) := by
  rw [cells, Direction.column?_arrange, cells]
  cases hc : t.column? c.column with
  | none =>
    have hnone : c.cells t = [] := by rw [cells, hc, Option.getD_none]
    have hcovers := h.covers
    rw [hnone] at hcovers
    have horder : d.rowOrder t = [] := List.eq_nil_iff_forall_not_mem.2 fun i hi =>
      Nat.not_lt_zero i (Direction.lt_of_mem_rowOrder hcovers hi)
    rw [horder]
    rfl
  | some cells => rfl

/-- **What satisfies a condition still does when sorted.** No row is taken from below the cells
that are tested, so none of these is an empty one that fills up. -/
theorem arrange (h : c.Accepts t) (d : Direction) : c.Accepts (d.arrange t) := by
  constructor
  · intro cell hcell
    rw [h.cells_arrange] at hcell
    obtain ⟨i, hi, rfl⟩ := List.mem_map.1 hcell
    have hlt : i < (c.cells t).length := Direction.lt_of_mem_rowOrder h.covers hi
    rw [cellAt, List.getElem?_eq_getElem hlt, Option.getD_some]
    exact h.passes _ (List.getElem_mem hlt)
  · intro column hcolumn
    rw [(t.gathers_cellsInOrder _).length_of_mem hcolumn, h.cells_arrange, List.length_map]

end Condition.Accepts

/-! ### Projecting what is kept -/

namespace Projection

variable {p : Projection}

theorem mem_columns_of_restrict {c : Column} (h : c ∈ (p.restrict t).columns) : c ∈ t.columns := by
  rw [restrict] at h
  split at h
  · exact h
  · exact (Array.mem_filter.1 h).1

/-- Keeping all columns that are there changes nothing. -/
theorem contents_restrict_of_keeps (h : ∀ name ∈ t.columnNames, p.keeps name = true) :
    (p.restrict t).contents = t.contents := by
  rw [restrict]
  cases hw : p.isWildcard with
  | true => rw [if_pos rfl]
  | false =>
    rw [keeps_of_not_isWildcard hw, ← Table.map_fst_entries] at h
    rw [if_neg Bool.false_ne_true, Table.contents, Table.entries_filterColumns,
      List.filter_eq_self.2 fun e he => h e.1 (List.mem_map_of_mem he), Table.contents]

end Projection

/-- **What satisfies a condition still does** without other columns. -/
theorem Condition.Accepts.restrict {c : Condition} {p : Projection} (h : c.Accepts t)
    (hkeep : p.keeps c.column = true) : c.Accepts (p.restrict t) := by
  have hcells : c.cells (p.restrict t) = c.cells t := by
    rw [cells, cells, Projection.column?_restrict hkeep]
  constructor
  · rw [hcells]
    exact h.passes
  · intro column hcolumn
    rw [hcells]
    exact h.covers column (Projection.mem_columns_of_restrict hcolumn)

/-! ### Sorting what is in order -/

namespace Direction

variable {d : Direction}

/-- The cells that a direction sorts by are in its order. -/
def InOrder (d : Direction) (t : Table) : Prop :=
  ∀ cells, t.column? d.column = some cells →
    (d.order.fromLeast cells).Pairwise fun a b => a.sortCompare b ≠ .gt

/-- **Sorting puts the cells in order,** on any table. -/
theorem inOrder_arrange (d : Direction) (t : Table) : d.InOrder (d.arrange t) := by
  intro sorted hsorted
  rw [column?_arrange, rowOrder] at hsorted
  cases h : t.column? d.column with
  | none =>
    rw [h] at hsorted
    cases hsorted
  | some cells =>
    have hcells : sorted = (d.positions cells).map (cellAt cells) := by
      rw [h] at hsorted
      exact (Option.some.inj hsorted).symm
    have hsort := isStableSort_map_ascendingPositions (cellAt cells) id fun _ => rfl
    rw [hcells, positions_eq, ← SortOrder.fromLeast_map, SortOrder.fromLeast_fromLeast]
    exact hsort.ordered

theorem InOrder.restrict {p : Projection} (h : d.InOrder t) (hkeep : p.keeps d.column = true) :
    d.InOrder (p.restrict t) := by
  intro cells hcells
  rw [Projection.column?_restrict hkeep] at hcells
  exact h cells hcells

/-- Rows are in order as their cells are. -/
theorem InOrder.pairwise_rows (h : d.InOrder t) (ht : t.IsRectangular)
    (hmem : d.column ∈ t.columnNames) :
    (d.order.fromLeast t.rows).Pairwise fun r r' =>
      compareRows t.columnNames d.column r r' ≠ .gt := by
  obtain ⟨cells, hd⟩ := Table.mem_columnNames_iff.1 hmem
  have hcells := h cells hd
  rw [← Table.map_cellUnder_rows ht hd, SortOrder.fromLeast_map, List.pairwise_map] at hcells
  exact hcells

/-- **Sorting what is in ascending order changes nothing.** -/
theorem InOrder.rows_arrange (h : d.InOrder t) (ht : t.IsRectangular)
    (hasc : d.order = .ascending) : (d.arrange t).rows = t.rows := by
  have hordering := d.isOrdering_arrange ht
  by_cases hmem : d.column ∈ t.columnNames
  · have hsort := (isOrdering_iff_of_mem hmem).1 hordering
    have hrows := h.pairwise_rows ht hmem
    rw [hasc] at hsort hrows
    exact hsort.eq_of_ordered hrows
  · exact (isOrdering_iff_of_not_mem hmem).1 hordering

/-- **Sorting what is in order changes nothing when done twice.** -/
theorem InOrder.rows_arrange_arrange (h : d.InOrder t) (ht : t.IsRectangular) :
    (d.arrange (d.arrange t)).rows = t.rows := by
  have hordering := d.isOrdering_arrange ht
  have hagain := d.isOrdering_arrange (d.isRectangular_arrange t)
  rw [columnNames_arrange] at hagain
  by_cases hmem : d.column ∈ t.columnNames
  · cases hd : d.order with
    | ascending =>
      rw [(inOrder_arrange d t).rows_arrange (d.isRectangular_arrange t) hd,
        h.rows_arrange ht hd]
    | descending =>
      have hsort := (isOrdering_iff_of_mem hmem).1 hordering
      have hresort := (isOrdering_iff_of_mem hmem).1 hagain
      have hrows := h.pairwise_rows ht hmem
      rw [hd] at hsort hresort hrows
      exact List.reverse_injective (hresort.unique (hsort.symm_of_ordered_reverse hrows))
  · rw [isOrdering_iff_of_not_mem hmem] at hordering hagain
    rw [hagain, hordering]

theorem InOrder.contents_arrange (h : d.InOrder t) (ht : t.IsRectangular)
    (hasc : d.order = .ascending) : (d.arrange t).contents = t.contents :=
  Table.contents_eq_of_rows_eq (d.isRectangular_arrange t) ht (d.columnNames_arrange t)
    (h.rows_arrange ht hasc)

theorem InOrder.contents_arrange_arrange (h : d.InOrder t) (ht : t.IsRectangular) :
    (d.arrange (d.arrange t)).contents = t.contents :=
  Table.contents_eq_of_rows_eq (d.isRectangular_arrange _) ht
    (by rw [columnNames_arrange, columnNames_arrange]) (h.rows_arrange_arrange ht)

end Direction

/-! ### Running again -/

namespace Query

variable {q : Query}

/-- Whether a query keeps the columns that it filters and sorts by, as it lists them or all. -/
def KeepsKeys (q : Query) : Prop :=
  Projection.wildcard ∈ q.columns.names ∨
    (∀ c ∈ q.condition?, c.column ∈ q.columns.names) ∧
      ∀ d ∈ q.direction?, d.column ∈ q.columns.names

/-- Registers the table of a query under the name that the query reads. -/
def store (q : Query) (catalog : Catalog) : Catalog :=
  catalog.insert q.source (q.evaluate catalog).value.table

theorem KeepsKeys.condition (h : q.KeepsKeys) {c : Condition} (hc : q.condition? = some c) :
    q.columns.keeps c.column = true :=
  Projection.keeps_of_mem (h.imp_right fun hkeys => hkeys.1 c hc)

theorem KeepsKeys.direction (h : q.KeepsKeys) {d : Direction} (hd : q.direction? = some d) :
    q.columns.keeps d.column = true :=
  Projection.keeps_of_mem (h.imp_right fun hkeys => hkeys.2 d hd)

/-- All rows of a result satisfy the condition. -/
theorem KeepsKeys.accepts (h : q.KeepsKeys) {c : Condition} (hc : q.condition? = some c)
    (t : Table) : c.Accepts (q.resultTable t) := by
  rw [resultTable, selected, arranged, hc]
  refine Condition.Accepts.restrict ?_ (h.condition hc)
  cases q.direction? with
  | none => exact c.accepts_select t
  | some d => exact (c.accepts_select t).arrange d

/-- A result is in order. -/
theorem KeepsKeys.inOrder (h : q.KeepsKeys) {d : Direction} (hd : q.direction? = some d)
    (t : Table) : d.InOrder (q.resultTable t) := by
  rw [resultTable, arranged, hd]
  exact (d.inOrder_arrange _).restrict (h.direction hd)

/-- A result is rectangular if it has been sorted. -/
theorem isRectangular_resultTable_of_direction {d : Direction} (hd : q.direction? = some d)
    (t : Table) : (q.resultTable t).IsRectangular := by
  rw [resultTable, arranged, hd]
  exact Projection.isRectangular_restrict _ (d.isRectangular_arrange _)

/-- **Of a result only the order of the rows is made anew.** -/
theorem KeepsKeys.contents_resultTable_resultTable (h : q.KeepsKeys) (t : Table) :
    (q.resultTable (q.resultTable t)).contents = (q.arranged (q.resultTable t)).contents := by
  have hselected : (q.selected (q.resultTable t)).contents = (q.resultTable t).contents := by
    rw [selected]
    cases hc : q.condition? with
    | none => rfl
    | some c => exact (h.accepts hc t).contents_select
  have hkept : ∀ name ∈ (q.arranged (q.selected (q.resultTable t))).columnNames,
      q.columns.keeps name = true := by
    intro name hname
    rw [columnNames_arranged, columnNames_selected, resultTable,
      Projection.columnNames_restrict] at hname
    exact (List.mem_filter.1 hname).2
  calc (q.resultTable (q.resultTable t)).contents
      = (q.arranged (q.selected (q.resultTable t))).contents :=
        Projection.contents_restrict_of_keeps hkept
    _ = (q.arranged (q.resultTable t)).contents := q.contents_arranged_congr hselected

/-- A result is in order already where this is not a descending one. -/
theorem KeepsKeys.contents_arranged (h : q.KeepsKeys)
    (hasc : ∀ d ∈ q.direction?, d.order = .ascending) (t : Table) :
    (q.arranged (q.resultTable t)).contents = (q.resultTable t).contents := by
  rw [arranged]
  cases hd : q.direction? with
  | none => rfl
  | some d =>
    exact (h.inOrder hd t).contents_arrange (isRectangular_resultTable_of_direction hd t)
      (hasc d hd)

/-- A result comes back when it is put in order twice. -/
theorem KeepsKeys.contents_arranged_arranged (h : q.KeepsKeys) (t : Table) :
    (q.arranged (q.arranged (q.resultTable t))).contents = (q.resultTable t).contents := by
  rw [arranged, arranged]
  cases hd : q.direction? with
  | none => rfl
  | some d =>
    exact (h.inOrder hd t).contents_arrange_arrange (isRectangular_resultTable_of_direction hd t)

/-- The table of a query on a catalog that holds its own result. -/
theorem table_evaluate_store (q : Query) (catalog : Catalog) :
    (q.evaluate (q.store catalog)).value.table =
      q.resultTable (q.evaluate catalog).value.table := by
  rw [value_evaluate, sourceTable, store, Catalog.get?_insert_self, Option.getD_some]

/-- **Running a query again on its stored result is stable up to the order of ties**, on every
catalog. Without a descending order the second table is equal to the first; in any order the third
one is. -/
theorem rerun_stable (h : q.KeepsKeys) (catalog : Catalog) :
    let first := (q.evaluate catalog).value.table
    let second := (q.evaluate (q.store catalog)).value.table
    let third := (q.evaluate (q.store (q.store catalog))).value.table
    ((∀ d ∈ q.direction?, d.order = .ascending) → (second == first) = true) ∧
      (third == first) = true := by
  intro first second third
  have hfirst : first = q.resultTable (q.sourceTable catalog) := by
    simp only [first, value_evaluate]
  have hsecond : second = q.resultTable first := q.table_evaluate_store catalog
  have hthird : third = q.resultTable second := q.table_evaluate_store (q.store catalog)
  have hagain : second.contents = (q.arranged first).contents := by
    rw [hsecond, hfirst]
    exact h.contents_resultTable_resultTable _
  constructor
  · intro hasc
    rw [Table.beq_iff, hagain, hfirst]
    exact h.contents_arranged hasc _
  · rw [Table.beq_iff]
    calc third.contents = (q.arranged second).contents := by
          rw [hthird, hsecond]
          exact h.contents_resultTable_resultTable _
      _ = (q.arranged (q.arranged first)).contents := q.contents_arranged_congr hagain
      _ = first.contents := by
          rw [hfirst]
          exact h.contents_arranged_arranged _

/-- The rows with the smallest key, which is tied, in an order. -/
def smallestKey (order : SortOrder) : Query where
  columns := ⟨["key", "id"]⟩
  source := "tied"
  condition? := some ⟨"key", .less, .int 2⟩
  direction? := some ⟨"key", order⟩

theorem keepsKeys_smallestKey (order : SortOrder) : (smallestKey order).KeepsKeys := by
  have hkey : "key" ∈ ["key", "id"] := by decide
  refine .inr ⟨?_, ?_⟩
  · rintro c ⟨⟩
    exact hkey
  · rintro d ⟨⟩
    exact hkey

/-- Rows that pass in order come out backwards. -/
theorem rows_resultTable_smallestKey {rows : List (List Value)} (ht : t.IsRectangular)
    (hnames : t.columnNames = ["key", "id"])
    (hkept : (smallestKey .descending).keptRows ["key", "id"] t.rows = rows)
    (hrows : rows.Pairwise fun r r' => compareRows ["key", "id"] "key" r r' ≠ .gt) :
    ((smallestKey .descending).resultTable t).rows =
      rows.reverse.map (restrictRow ["key", "id"] (smallestKey .descending).columns.keeps) := by
  have hordering : (smallestKey .descending).IsOrdering t.columnNames
      ((smallestKey .descending).keptRows t.columnNames t.rows) rows.reverse := by
    have hmem : "key" ∈ t.columnNames := by
      rw [hnames]
      decide
    refine (Direction.isOrdering_iff_of_mem hmem).2 ?_
    rw [hnames, hkept, SortOrder.fromLeast, List.reverse_reverse]
    exact ⟨List.Perm.refl _, hrows, fun _ => rfl⟩
  have hne : ((smallestKey .descending).resultTable t).columnNames ≠ [] := by
    rw [columnNames_resultTable, hnames]
    decide
  rw [rows_resultTable ht hordering hne, hnames]

/-- In ascending order the second table is the first. In descending order the tied rows change
places, and only the third table is the first again. -/
theorem rerun_stable_tied :
    let catalog := (Catalog.empty {}).insert "tied" Direction.tied
    let q := smallestKey .ascending
    let r := smallestKey .descending
    let first := (r.evaluate catalog).value.table
    let second := (r.evaluate (r.store catalog)).value.table
    let third := (r.evaluate (r.store (r.store catalog))).value.table
    (q.KeepsKeys ∧ r.KeepsKeys ∧ ∀ d ∈ q.direction?, d.order = .ascending) ∧
    ((q.evaluate (q.store catalog)).value.table == (q.evaluate catalog).value.table) = true ∧
    first.rows = [[.bool true, .str "c"], [.int 1, .str "a"]] ∧
    second.rows = [[.int 1, .str "a"], [.bool true, .str "c"]] ∧
    (third == first) = true := by
  intro catalog q r first second third
  have hq : q.KeepsKeys := keepsKeys_smallestKey .ascending
  have hr : r.KeepsKeys := keepsKeys_smallestKey .descending
  have hasc : ∀ d ∈ q.direction?, d.order = .ascending := by
    rintro d ⟨⟩
    rfl
  have hget : catalog.get? r.source = some Direction.tied := Catalog.get?_insert_self _ _ _
  have hfirst : first = r.resultTable Direction.tied := by
    simp only [first, value_evaluate, sourceTable, hget, Option.getD_some]
  have hsecond : second = r.resultTable first := r.table_evaluate_store catalog
  have htied : Direction.tied.IsRectangular :=
    (Table.validate_eq_ok_iff _).1 Direction.validate_tied
  have hfirstRectangular : first.IsRectangular := by
    rw [hfirst]
    exact r.isRectangular_resultTable htied
  have hfirstNames : first.columnNames = ["key", "id"] := by
    rw [hfirst, columnNames_resultTable, Direction.columnNames_tied]
    decide
  have hkept : r.keptRows ["key", "id"] Direction.tied.rows =
      [[.int 1, .str "a"], [.bool true, .str "c"]] := by
    rw [Direction.rows_tied]
    rfl
  have hfirstRows : first.rows = [[.bool true, .str "c"], [.int 1, .str "a"]] := by
    rw [hfirst]
    exact rows_resultTable_smallestKey htied Direction.columnNames_tied hkept (by decide)
  have hsecondRows : second.rows = [[.int 1, .str "a"], [.bool true, .str "c"]] := by
    have hkeptFirst : r.keptRows ["key", "id"] first.rows =
        [[.bool true, .str "c"], [.int 1, .str "a"]] := by
      rw [hfirstRows]
      rfl
    rw [hsecond]
    exact rows_resultTable_smallestKey hfirstRectangular hfirstNames hkeptFirst (by decide)
  exact ⟨⟨hq, hr, hasc⟩, (rerun_stable hq catalog).1 hasc, hfirstRows, hsecondRows,
    (rerun_stable hr catalog).2⟩

end Query
end TableQuery
