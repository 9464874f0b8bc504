/-
# Sorting and the sides of a threshold

Conditions and sorting compare cells by different rules, and on a column without strings they agree.
A threshold that is a number cuts the cells into five blocks: the empty ones, those below it, those
level with it, those above it and the NaNs. Conditions tell the blocks apart, sorting puts them in
this order (`Block.ofCell_le`). So a sorted table is made of these blocks, one after the other, in
descending order from the last to the first (`Direction.sort_blocks`).
-/

import TableQuery.Proofs.Query.Meaning
import TableQuery.Proofs.Value.ExactOrder

namespace TableQuery

/-! ### Lists in blocks -/

section

variable {α κ : Type} {l : List α}

/-- If nothing that passes stands behind what does not, a list is what passes and then the rest. -/
theorem filter_append_rest {p : α → Bool} (h : l.Pairwise fun a b => p b = true → p a = true) :
    l.filter p ++ l.filter (!p ·) = l := by
  induction l with
  | nil => rfl
  | cons a l ih =>
    obtain ⟨ha, hl⟩ := List.pairwise_cons.1 h
    cases hp : p a with
    | true => simp [hp, ih hl]
    | false =>
      have hrest : ∀ b ∈ l, p b = false := fun b hb =>
        Bool.eq_false_iff.2 fun hpb => Bool.false_ne_true (hp.symm.trans (ha b hb hpb))
      have hnone : l.filter p = [] := List.filter_eq_nil_iff.2 fun b hb => by simp [hrest b hb]
      have hall : l.filter (!p ·) = l := List.filter_eq_self.2 fun b hb => by simp [hrest b hb]
      simp [hp, hnone, hall]

/-- **A list in the order of its keys is its blocks,** one for each key, one after the other. -/
theorem flatMap_filter_key [LinearOrder κ] {key : α → κ} {keys : List κ}
    (hkeys : keys.Pairwise (· < ·)) (hmem : ∀ a ∈ l, key a ∈ keys)
    (hl : l.Pairwise fun a b => key a ≤ key b) :
    (keys.flatMap fun k => l.filter (key · == k)) = l := by
  induction keys generalizing l with
  | nil => exact (List.eq_nil_iff_forall_not_mem.2 fun a ha => List.not_mem_nil (hmem a ha)).symm
  | cons k keys ih =>
    obtain ⟨hk, hkeys⟩ := List.pairwise_cons.1 hkeys
    -- The first block is in front, and the others are those of what is behind it.
    have hsplit : l.filter (key · == k) ++ l.filter (key · != k) = l := by
      refine filter_append_rest (hl.imp_of_mem fun {a b} ha _ hab hb => ?_)
      rw [beq_iff_eq] at hb ⊢
      refine (List.mem_cons.1 (hmem a ha)).resolve_right fun h => ?_
      exact absurd (hk _ h) (not_lt.2 (hb ▸ hab))
    have hbehind : ∀ a ∈ l.filter (key · != k), key a ∈ keys := by
      intro a ha
      obtain ⟨ha, hne⟩ := List.mem_filter.1 ha
      exact (List.mem_cons.1 (hmem a ha)).resolve_left (bne_iff_ne.1 hne)
    have hblock : ∀ k' ∈ keys,
        (l.filter (key · != k)).filter (key · == k') = l.filter (key · == k') := by
      intro k' hk'
      rw [List.filter_filter]
      refine List.filter_congr fun a _ => ?_
      by_cases h : key a = k'
      · simp [h, (hk k' hk').ne']
      · simp [h]
    rw [List.flatMap_cons, ← List.flatMap_congr hblock, ih hkeys hbehind (hl.filter _), hsplit]

end

/-! ### The blocks of a threshold -/

/-- The blocks into which a threshold cuts cells that are no strings. -/
inductive Block where
  | empty
  | below
  | level
  | above
  | nan
  deriving Repr

namespace Block

/-- The blocks from the least cells to the largest. -/
def all : List Block := [empty, below, level, above, nan]

/-- Whether a cell is in a block. Below and above the threshold are the cells that satisfy the
conditions `<` and `>`, level with it those that have an order and are neither. -/
def holds (threshold : Value) : Block → Value → Bool
  | empty, cell => cell.isNull
  | below, cell => Comparison.less.test cell threshold
  | level, cell => cell.looseCompare? threshold == some .eq
  | above, cell => Comparison.greater.test cell threshold
  | nan, cell => cell.isNaN

/-- The place of a block among all. -/
def place : Block → ℕ
  | empty => 0
  | below => 1
  | level => 2
  | above => 3
  | nan => 4

instance : LinearOrder Block :=
  LinearOrder.lift' place fun a b h => by cases a <;> cases b <;> first | rfl | cases h

/-- The block of a cell that has an order. -/
def ofOrdering : Ordering → Block
  | .lt => below
  | .eq => level
  | .gt => above

/-- The block of a cell that is no string. -/
def ofCell (threshold cell : Value) : Block :=
  match cell.looseCompare? threshold with
  | some order => ofOrdering order
  | none => if cell.isNull then empty else nan

variable {a b threshold : Value} {x x' y : ExactNumber}

theorem ofCell_null (threshold : Value) : ofCell threshold .null = empty := by
  rw [ofCell, Value.looseCompare?_null]
  rfl

theorem ofCell_of_isNaN (ha : a.isNaN = true) (hthreshold : threshold.isNumeric = true) :
    ofCell threshold a = nan := by
  rw [ofCell, Value.looseCompare?_of_isNaN ha hthreshold]
  simp [Value.isNull_of_isNumeric (Value.isNumeric_of_isNaN ha)]

theorem ofCell_of_exactValue (hx : a.exactValue = some x) (hy : threshold.exactValue = some y) :
    ofCell threshold a = ofOrdering (compare x y) := by
  rw [ofCell, Value.looseCompare?_of_exactValue hx hy]

/-- **Conditions tell the blocks apart:** each cell is in its block and in no other. -/
theorem holds_iff (hy : threshold.exactValue = some y) (h : a.str? = none) (b : Block) :
    b.holds threshold a = true ↔ ofCell threshold a = b := by
  have hthreshold := Value.isNumeric_of_exactValue hy
  rcases Value.cases_of_str?_eq_none h with rfl | hnan | ⟨x, hx⟩
  · have hcompare := Value.looseCompare?_null threshold
    rw [ofCell_null]
    cases b <;> simp [holds, Comparison.test, hcompare, Value.isNull, Value.isNaN]
  · have hcompare := Value.looseCompare?_of_isNaN hnan hthreshold
    have hnull := Value.isNull_of_isNumeric (Value.isNumeric_of_isNaN hnan)
    rw [ofCell_of_isNaN hnan hthreshold]
    cases b <;> simp [holds, Comparison.test, hcompare, hnull, hnan]
  · have hcompare := Value.looseCompare?_of_exactValue hx hy
    have hnull := Value.isNull_of_isNumeric (Value.isNumeric_of_exactValue hx)
    have hnan := Value.isNaN_of_exactValue hx
    rw [ofCell_of_exactValue hx hy]
    generalize compare x y = order at hcompare ⊢
    cases order <;> cases b <;>
      simp [holds, Comparison.test, hcompare, hnull, hnan, ofOrdering]

theorem mem_all (b : Block) : b ∈ all := by
  cases b <;> decide

theorem all_pairwise : all.Pairwise (· < ·) := by decide

theorem empty_le (b : Block) : empty ≤ b := by
  cases b <;> decide

theorem le_nan (b : Block) : b ≤ nan := by
  cases b <;> decide

/-- A larger value is not in an earlier block. -/
theorem ofOrdering_le (h : x ≤ x') (y : ExactNumber) :
    ofOrdering (compare x y) ≤ ofOrdering (compare x' y) := by
  rcases lt_trichotomy x y with hlt | rfl | hgt
  · rw [compare_lt_iff_lt.2 hlt]
    cases compare x' y <;> decide
  · rcases h.eq_or_lt with rfl | hlt
    · exact le_refl _
    · rw [compare_eq_iff_eq.2 rfl, compare_gt_iff_gt.2 hlt]
      decide
  · rw [compare_gt_iff_gt.2 hgt, compare_gt_iff_gt.2 (hgt.trans_le h)]

/-- **Sorting puts the blocks in order.** -/
theorem ofCell_le (hy : threshold.exactValue = some y) (ha : a.str? = none) (hb : b.str? = none)
    (h : a.sortCompare b ≠ .gt) : ofCell threshold a ≤ ofCell threshold b := by
  have hthreshold := Value.isNumeric_of_exactValue hy
  -- Empty cells are first in both orders and NaNs last. Between others their values decide.
  rcases Value.cases_of_str?_eq_none ha with rfl | hanan | ⟨x, hx⟩
  · rw [ofCell_null]
    exact empty_le _
  · rcases Value.cases_of_str?_eq_none hb with rfl | hbnan | ⟨x', hx'⟩
    · exact absurd (Value.sortCompare_null (Value.isNumeric_of_isNaN hanan)) h
    · rw [ofCell_of_isNaN hanan hthreshold, ofCell_of_isNaN hbnan hthreshold]
    · exact absurd (Value.sortCompare_of_isNaN hanan (Value.isNumeric_of_exactValue hx')
        (Value.isNaN_of_exactValue hx')) h
  · rcases Value.cases_of_str?_eq_none hb with rfl | hbnan | ⟨x', hx'⟩
    · exact absurd (Value.sortCompare_null (Value.isNumeric_of_exactValue hx)) h
    · rw [ofCell_of_isNaN hbnan hthreshold]
      exact le_nan _
    · rw [Value.sortCompare_of_exactValue hx hx', ne_eq, compare_gt_iff_gt, not_lt] at h
      rw [ofCell_of_exactValue hx hy, ofCell_of_exactValue hx' hy]
      exact ofOrdering_le h y

end Block

/-! ### Sorted rows -/

namespace Direction

variable {t : Table} {column : String} {cells : List Value} {threshold : Value} {y : ExactNumber}

/-- The cells of the rows of a table under a name are those of the column. -/
theorem cellUnder_mem {row : List Value} (ht : t.IsRectangular) (h : t.column? column = some cells)
    (hrow : row ∈ t.rows) : cellUnder t.columnNames column row ∈ cells := by
  rw [← Table.map_cellUnder_rows ht h]
  exact List.mem_map_of_mem hrow

/-- Rows in ascending order are their blocks, one after the other. -/
theorem flatMap_blocks {names : List String} {rows : List (List Value)}
    (hy : threshold.exactValue = some y)
    (hstr : ∀ row ∈ rows, (cellUnder names column row).str? = none)
    (hrows : rows.Pairwise fun row row' => compareRows names column row row' ≠ .gt) :
    (Block.all.flatMap fun b => rows.filter fun row =>
      b.holds threshold (cellUnder names column row)) = rows := by
  let block (row : List Value) : Block := Block.ofCell threshold (cellUnder names column row)
  have hblock : ∀ b, ∀ row ∈ rows,
      b.holds threshold (cellUnder names column row) = (block row == b) := by
    intro b row hrow
    rw [Bool.eq_iff_iff, beq_iff_eq]
    exact Block.holds_iff hy (hstr row hrow) b
  have hordered : rows.Pairwise fun row row' => block row ≤ block row' :=
    hrows.imp_of_mem fun h h' hle => Block.ofCell_le hy (hstr _ h) (hstr _ h') hle
  calc (Block.all.flatMap fun b => rows.filter fun row =>
          b.holds threshold (cellUnder names column row))
      = Block.all.flatMap fun b => rows.filter (block · == b) :=
        List.flatMap_congr fun b _ => List.filter_congr (hblock b)
    _ = rows :=
        flatMap_filter_key Block.all_pairwise (fun row _ => Block.mem_all (block row)) hordered

/-- **Sorting by a column without strings puts the rows in blocks.** A valid table in ascending
order is its blocks from the empty one to the NaNs, and in descending order from the NaNs to the
empty one. Every row of the source is in one block, and the blocks below and above the threshold are
what `<` and `>` keep. -/
theorem sort_blocks (hvalid : t.validate = .ok ()) (hcolumn : t.column? column = some cells)
    (hcells : ∀ cell ∈ cells, cell.str? = none) (hnumeric : threshold.isNumeric = true)
    (hvalue : threshold.isNaN = false) (order : SortOrder) (catalog : Catalog) (source : String) :
    let sorted := ((⟨column, order⟩ : Direction).sort catalog source t).value.table
    let filtered (op : Comparison) :=
      ((⟨column, op, threshold⟩ : Condition).filter catalog source t).value.table
    let inBlock (b : Block) (row : List Value) :=
      b.holds threshold (cellUnder t.columnNames column row)
    sorted.rows = (order.fromLeast Block.all).flatMap (fun b => sorted.rows.filter (inBlock b)) ∧
    (∀ b, (sorted.rows.filter (inBlock b)).Perm (t.rows.filter (inBlock b))) ∧
    (∀ row ∈ t.rows, ∃! b, inBlock b row = true) ∧
    t.rows.filter (inBlock .below) = (filtered .less).rows ∧
    t.rows.filter (inBlock .above) = (filtered .greater).rows := by
  intro sorted filtered inBlock
  have ht := (t.validate_eq_ok_iff).1 hvalid
  obtain ⟨y, hy⟩ := Value.exists_exactValue hnumeric hvalue
  have hmem : column ∈ t.columnNames := Table.mem_columnNames_of_column? hcolumn
  have hstr : ∀ row ∈ t.rows, (cellUnder t.columnNames column row).str? = none :=
    fun row hrow => hcells _ (cellUnder_mem ht hcolumn hrow)
  have hsort : IsStableSort (compareRows t.columnNames column) t.rows
      (order.fromLeast sorted.rows) := by
    simp only [sorted, value_sort]
    exact (isOrdering_iff_of_mem hmem).1 (isOrdering_arrange ⟨column, order⟩ ht)
  have hblocks : Block.all.flatMap (fun b => (order.fromLeast sorted.rows).filter (inBlock b)) =
      order.fromLeast sorted.rows :=
    flatMap_blocks hy (fun row hrow => hstr row (hsort.perm.mem_iff.1 hrow)) hsort.ordered
  have hperm : sorted.rows.Perm t.rows := (order.fromLeast_perm _).symm.trans hsort.perm
  have hfiltered : ∀ op : Comparison, (filtered op).rows =
      t.rows.filter fun row => op.test (cellUnder t.columnNames column row) threshold := by
    intro op
    simp only [filtered, Condition.value_filter]
    rw [Condition.rows_select _ ht, Condition.keptRows, if_pos hmem]
    rfl
  refine ⟨?_, fun b => hperm.filter _, fun row hrow => ?_, (hfiltered .less).symm,
    (hfiltered .greater).symm⟩
  · calc sorted.rows
        = order.fromLeast (order.fromLeast sorted.rows) := (order.fromLeast_fromLeast _).symm
      _ = (order.fromLeast Block.all).flatMap fun b =>
            order.fromLeast ((order.fromLeast sorted.rows).filter (inBlock b)) := by
          rw [← order.fromLeast_flatMap, hblocks]
      _ = (order.fromLeast Block.all).flatMap fun b => sorted.rows.filter (inBlock b) := by
          simp only [SortOrder.fromLeast_filter, SortOrder.fromLeast_fromLeast]
  · have hholds := Block.holds_iff hy (hstr row hrow)
    exact ⟨_, (hholds _).2 rfl, fun b hb => ((hholds b).1 hb).symm⟩

/-- One mark for each block of the threshold two. The boolean is the number one to it. -/
def marks : Table := .ofColumns [⟨"mark", [.float .nan, .int 3, .bool true, .null, .int 2]⟩]

/-- From the NaN down to the empty mark. -/
theorem sort_blocks_marks :
    let cells : List Value := [.float .nan, .int 3, .bool true, .null, .int 2]
    let threshold := Value.int 2
    let sorted := ((⟨"mark", .descending⟩ : Direction).sort (.empty {}) "marks" marks).value.table
    (marks.validate = .ok () ∧ marks.column? "mark" = some cells ∧
      (∀ cell ∈ cells, cell.str? = none) ∧ threshold.isNumeric = true ∧ threshold.isNaN = false) ∧
    sorted.rows = [[.float .nan], [.int 3], [.int 2], [.bool true], [.null]] := by
  intro cells threshold sorted
  have hcolumns : marks.columns = #[⟨"mark", cells⟩] := Table.columns_ofColumns (by decide)
  have hvalid : marks.validate = .ok () := by
    rw [Table.validate_eq_ok_iff, Table.IsRectangular, Table.rowCount, hcolumns]
    simp
  have hmark : marks.column? "mark" = some cells := by
    rw [Table.column?_eq_some_iff, hcolumns]
    simp
  have hstr : ∀ cell ∈ cells, cell.str? = none := by
    simp [cells, Value.str?]
  have hnumeric : threshold.isNumeric = true := rfl
  have hvalue : threshold.isNaN = false := rfl
  refine ⟨⟨hvalid, hmark, hstr, hnumeric, hvalue⟩, ?_⟩
  obtain ⟨hsorted, hperm, -⟩ :=
    sort_blocks hvalid hmark hstr hnumeric hvalue .descending (.empty {}) "marks"
  have hrows : marks.rows = cells.map fun cell => [cell] := by
    rw [Table.rows, Table.rowCount, funext marks.cellsAt_eq, hcolumns]
    rfl
  have hnames : marks.columnNames = ["mark"] := by
    rw [Table.columnNames, hcolumns]
    rfl
  rw [hrows, hnames] at hperm
  rw [hnames] at hsorted
  let inBlock (b : Block) (row : List Value) := b.holds threshold (cellUnder ["mark"] "mark" row)
  -- A block with one row in the table has this row when the table is sorted.
  have hone : ∀ (b : Block) (row : List Value),
      (cells.map fun cell => [cell]).filter (inBlock b) = [row] →
      sorted.rows.filter (inBlock b) = [row] :=
    fun b _ h => List.perm_singleton.1 (h ▸ hperm b)
  calc sorted.rows
      = [.nan, .above, .level, .below, .empty].flatMap fun b => sorted.rows.filter (inBlock b) :=
        hsorted
    _ = [[.float .nan], [.int 3], [.int 2], [.bool true], [.null]] := by
        simp only [List.flatMap_cons, List.flatMap_nil]
        rw [hone .nan [.float .nan] rfl, hone .above [.int 3] rfl, hone .level [.int 2] rfl,
          hone .below [.bool true] rfl, hone .empty [.null] rfl]
        rfl

end Direction
end TableQuery
