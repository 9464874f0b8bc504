/-
# What the operators split

Of `=`, `>` and `<` at most one holds between a cell and a threshold, since loose equality and loose
order do not contradict each other (`Comparison.eq_of_test`), and between cells of one kind exactly
one (`Comparison.existsUnique_test`). The operator `<>` holds where `=` does not.

So the rows of a valid table split into those that `=` keeps and those that `<>` keeps, and among
the latter are those that `>` keeps and those that `<` keeps, which have no row in common.
-/

import TableQuery.Proofs.Direction.Ranking
import TableQuery.Proofs.Value.LooseOrder

namespace TableQuery

/-! ### A cell and a threshold -/

namespace Comparison

variable {op op' : Comparison} {cell threshold : Value}

/-- **Of `=`, `>` and `<` at most one holds.** -/
theorem eq_of_test (hop : op ≠ .notEqual) (hop' : op' ≠ .notEqual)
    (h : op.test cell threshold = true) (h' : op'.test cell threshold = true) : op = op' := by
  have hequal : ∀ {o : Ordering}, equal.test cell threshold = true →
      (cell.looseCompare? threshold == some o) = true → o = .eq := fun heq ho =>
    Value.looseCompare?_of_looseEq heq (beq_iff_eq.1 ho)
  have hside : ∀ {o o' : Ordering}, (cell.looseCompare? threshold == some o) = true →
      (cell.looseCompare? threshold == some o') = true → o = o' := fun ho ho' =>
    Option.some.inj ((beq_iff_eq.1 ho).symm.trans (beq_iff_eq.1 ho'))
  cases op with
  | notEqual => exact absurd rfl hop
  | equal =>
    cases op' with
    | equal => rfl
    | notEqual => exact absurd rfl hop'
    | greater | less => cases hequal h h'
  | greater =>
    cases op' with
    | greater => rfl
    | notEqual => exact absurd rfl hop'
    | equal => cases hequal h' h
    | less => cases hside h h'
  | less =>
    cases op' with
    | less => rfl
    | notEqual => exact absurd rfl hop'
    | equal => cases hequal h' h
    | greater => cases hside h h'

/-- **Between cells of one kind exactly one of `=`, `>` and `<` holds.** -/
theorem existsUnique_test (h : cell.sameKind threshold = true) :
    ∃! op : Comparison, op ≠ .notEqual ∧ op.test cell threshold = true := by
  obtain ⟨o, ho, heq⟩ := Value.looseCompare?_of_sameKind h
  have hexists : ∃ op : Comparison, op ≠ .notEqual ∧ op.test cell threshold = true := by
    cases o with
    | eq => exact ⟨.equal, by decide, heq.2 rfl⟩
    | gt => exact ⟨.greater, by decide, beq_iff_eq.2 ho⟩
    | lt => exact ⟨.less, by decide, beq_iff_eq.2 ho⟩
  obtain ⟨op, hop, htest⟩ := hexists
  exact ⟨op, ⟨hop, htest⟩, fun op' h' => eq_of_test h'.1 hop h'.2 htest⟩

/-- `>` is `<` from the other side. -/
theorem greater_test (cell threshold : Value) :
    greater.test cell threshold = less.test threshold cell := by
  rw [test, test, Value.looseCompare?_swap cell threshold]
  cases cell.looseCompare? threshold with
  | none => rfl
  | some o => cases o <;> rfl

/-- What is on a side of the threshold does not equal it. -/
theorem notEqual_test_of_test (hop : op ≠ .equal) (h : op.test cell threshold = true) :
    notEqual.test cell threshold = true := by
  by_cases hne : op = .notEqual
  · rwa [← hne]
  · rw [test, Bool.not_eq_true', Bool.eq_false_iff]
    exact fun heq => hop (eq_of_test hne (by decide) h heq)

end Comparison

/-! ### The rows of a table -/

namespace Condition

variable {t : Table} {cells : List Value}

/-- The set flags of cells are at the heights of the cells that pass the test. -/
theorem idxsOf_map_test (test : Value → Bool) (cells : List Value) :
    (cells.map test).idxsOf true =
      (List.range cells.length).filter fun i => test (cellAt cells i) := by
  refine List.Perm.eq_of_pairwise (fun i j _ _ hij hji => absurd hij (lt_asymm hji))
    List.pairwise_findIdxs (List.pairwise_lt_range.filter _) ?_
  refine (List.perm_ext_iff_of_nodup List.nodup_findIdxs (List.nodup_range.filter _)).2 fun i => ?_
  rw [List.mem_findIdxs_iff_exists_getElem_pos, List.mem_filter, List.mem_range]
  constructor
  · rintro ⟨hi, h⟩
    rw [List.length_map] at hi
    exact ⟨hi, by simpa [cellAt, hi] using h⟩
  · rintro ⟨hi, h⟩
    exact ⟨by rwa [List.length_map], by simpa [cellAt, hi] using h⟩

/-- The set flags of a condition are at the heights of the cells that pass its test. -/
theorem idxsOf_flags (c : Condition) (ht : t.IsRectangular) (h : t.column? c.column = some cells) :
    (c.flags t).idxsOf true =
      (List.range t.rowCount).filter fun i => c.test (cellAt cells i) := by
  have hlength : cells.length = t.rowCount := ht _ (Table.column?_eq_some_iff.1 h)
  rw [flags, h, ← hlength]
  exact idxsOf_map_test c.test cells

/-- Selecting gathers the rows at the set flags. -/
theorem gathers_select (c : Condition) (ht : t.IsRectangular)
    (h : t.column? c.column = some cells) :
    t.Gathers (Table.keepFlagged (c.flags t)) ((c.flags t).idxsOf true) := by
  rw [c.idxsOf_flags ht h, flags, h]
  exact Table.gathers_keepFlagged ht h c.test

/-- **The operators split the rows** of a valid table by the threshold, as they split cells. Between
a cell and a threshold at most one of `=`, `>` and `<` holds, and exactly one if they are of one
kind; `<>` holds where `=` does not, and from the other side `=` stays and `>` is `<`. So every row
is kept by `=` or by `<>` and not by both, and what `>` keeps and what `<` keeps are parts of what
`<>` keeps, without a row in common. -/
theorem operators_partition :
    (∀ cell threshold : Value,
      (∀ op op' : Comparison, op ≠ .notEqual → op' ≠ .notEqual → op.test cell threshold = true →
        op'.test cell threshold = true → op = op') ∧
      Comparison.notEqual.test cell threshold = !Comparison.equal.test cell threshold ∧
      Comparison.greater.test cell threshold = Comparison.less.test threshold cell ∧
      Comparison.equal.test cell threshold = Comparison.equal.test threshold cell ∧
      (cell.sameKind threshold = true →
        ∃! op : Comparison, op ≠ .notEqual ∧ op.test cell threshold = true)) ∧
    ∀ (catalog : Catalog) (source : String) (t : Table) (column : String) (threshold : Value),
      t.validate = .ok () → column ∈ t.columnNames →
      let kept (op : Comparison) :=
        ((⟨column, op, threshold⟩ : Condition).classify catalog source t).value.1.idxsOf true
      let filtered (op : Comparison) :=
        ((⟨column, op, threshold⟩ : Condition).filter catalog source t).value.table
      (∀ op, (filtered op).columns = t.gathered (kept op) ∧
        (filtered op).rows = (kept op).map t.cellsAt ∧ ∀ i ∈ kept op, i < t.rowCount) ∧
      (∀ i < t.rowCount, i ∈ kept .equal ↔ i ∉ kept .notEqual) ∧
      (kept .greater).Sublist (kept .notEqual) ∧ (kept .less).Sublist (kept .notEqual) ∧
      (kept .greater).Disjoint (kept .less) := by
  refine ⟨fun cell threshold => ⟨fun op op' => Comparison.eq_of_test, rfl,
    Comparison.greater_test cell threshold, Value.looseEq_comm cell threshold,
    Comparison.existsUnique_test⟩, ?_⟩
  intro catalog source t column threshold hvalid hmem kept filtered
  have ht := (t.validate_eq_ok_iff).1 hvalid
  obtain ⟨cells, hcells⟩ := Table.mem_columnNames_iff.1 hmem
  have hkept : ∀ op, kept op =
      (List.range t.rowCount).filter fun i => op.test (cellAt cells i) threshold := by
    intro op
    simp only [kept, value_classify]
    exact idxsOf_flags ⟨column, op, threshold⟩ ht hcells
  have hnotEqual : ∀ op : Comparison, op ≠ .equal → (kept op).Sublist (kept .notEqual) := by
    intro op hop
    rw [hkept, hkept]
    exact List.monotone_filter_right _ fun i => Comparison.notEqual_test_of_test hop
  refine ⟨fun op => ?_, fun i hi => ?_, hnotEqual .greater (by decide), hnotEqual .less (by decide),
    fun i hgreater hless => ?_⟩
  · have hne := Array.ne_empty_of_mem (Table.column?_eq_some_iff.1 hcells)
    have hgathers := gathers_select ⟨column, op, threshold⟩ ht hcells
    simp only [filtered, value_filter, kept, value_classify]
    refine ⟨hgathers.columns, hgathers.rows hne, fun i hi => ?_⟩
    rw [idxsOf_flags ⟨column, op, threshold⟩ ht hcells, List.mem_filter] at hi
    exact List.mem_range.1 hi.1
  · rw [hkept, hkept]
    simp [hi, Comparison.test]
  · rw [hkept, List.mem_filter] at hgreater hless
    exact absurd (Comparison.eq_of_test (by decide) (by decide) hgreater.2 hless.2) (by decide)

open Direction in
/-- The last row is kept by `<>`, since `true` is no number to equality, and by neither `>` nor `<`,
since it is the number one to order. -/
theorem operators_partition_tied :
    let kept (op : Comparison) :=
      ((⟨"key", op, .int 1⟩ : Condition).classify (.empty {}) "tied" tied).value.1.idxsOf true
    let filtered (op : Comparison) :=
      ((⟨"key", op, .int 1⟩ : Condition).filter (.empty {}) "tied" tied).value.table
    (tied.validate = .ok () ∧ "key" ∈ tied.columnNames ∧
      (Value.int 2).sameKind (.int 1) = true) ∧
    (∃! op : Comparison, op ≠ .notEqual ∧ op.test (.int 2) (.int 1) = true) ∧
    (kept .equal = [0] ∧ kept .notEqual = [1, 2] ∧ kept .greater = [1] ∧ kept .less = []) ∧
    (filtered .notEqual).rows = [[.int 2, .str "b"], [.bool true, .str "c"]] := by
  intro kept filtered
  have hmem : "key" ∈ tied.columnNames := Table.mem_columnNames_of_column? column?_tied_key
  obtain ⟨hcells, htables⟩ := operators_partition
  obtain ⟨hrows, -⟩ := htables (.empty {}) "tied" tied "key" (.int 1) validate_tied hmem
  have hkept : ∀ op, kept op = ([.int 1, .int 2, .bool true].map fun cell : Value =>
      op.test cell (.int 1)).idxsOf true := by
    intro op
    simp only [kept, value_classify, flags, column?_tied_key]
    rfl
  refine ⟨⟨validate_tied, hmem, rfl⟩, (hcells (.int 2) (.int 1)).2.2.2.2 rfl, ?_, ?_⟩
  · rw [hkept, hkept, hkept, hkept]
    decide
  · refine (hrows .notEqual).2.1.trans ?_
    change (kept .notEqual).map tied.cellsAt = _
    rw [hkept, funext tied.cellsAt_eq, columns_tied]
    rfl

end Condition
end TableQuery
