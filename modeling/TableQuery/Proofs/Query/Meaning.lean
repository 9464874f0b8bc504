/-
# The meaning of a query

A query is told by rows. The condition keeps the rows whose cell under its column passes, in their
order, and no row if there is no such column. The direction puts them in order by their cells under
its column: ascending order is the stable sort, descending order that list read backwards, and
without such a column rows stay as they are. Then every row is restricted to the columns that are
kept. Columns that a condition or a direction names need not be among these.

Evaluation does this column by column (`Query.evaluate_relational`). As long as a table has a
column its rows tell all of it; a table without columns has none.
-/

import TableQuery.Proofs.Direction.Positions

namespace TableQuery

/-! ### What a query means -/

/-- The rows that a condition keeps. -/
def Condition.keptRows (c : Condition) (names : List String) (rows : List (List Value)) :
    List (List Value) :=
  if c.column ∈ names then rows.filter fun row => c.test (cellUnder names c.column row) else []

/-- Rows compared by their cells under a name. -/
def compareRows (names : List String) (name : String) (row row' : List Value) : Ordering :=
  (cellUnder names name row).sortCompare (cellUnder names name row')

instance (names : List String) (name : String) : Std.TransCmp (compareRows names name) :=
  transCmp_on Value.sortCompare (cellUnder names name)

/-- The rows `sorted` are `rows` in the order of a direction. -/
def Direction.IsOrdering (d : Direction) (names : List String) (rows sorted : List (List Value)) :
    Prop :=
  if d.column ∈ names then
    match d.order with
    | .ascending => IsStableSort (compareRows names d.column) rows sorted
    | .descending => IsStableSort (compareRows names d.column) rows sorted.reverse
  else sorted = rows

namespace Query

/-- The rows that the condition of a query keeps. -/
def keptRows (q : Query) (names : List String) (rows : List (List Value)) : List (List Value) :=
  match q.condition? with
  | some c => c.keptRows names rows
  | none => rows

/-- The rows `sorted` are `rows` in the order of the direction of a query. -/
def IsOrdering (q : Query) (names : List String) (rows sorted : List (List Value)) : Prop :=
  match q.direction? with
  | some d => d.IsOrdering names rows sorted
  | none => sorted = rows

end Query

namespace Direction

variable {d : Direction} {names : List String} {rows sorted sorted' : List (List Value)}

/-- By a column that is there the rows are a stable sort, read from the smallest on. -/
theorem isOrdering_iff_of_mem (hmem : d.column ∈ names) :
    d.IsOrdering names rows sorted ↔
      IsStableSort (compareRows names d.column) rows (d.order.fromLeast sorted) := by
  rw [IsOrdering, if_pos hmem]
  cases d.order <;> rfl

theorem isOrdering_iff_of_not_mem (hmem : d.column ∉ names) :
    d.IsOrdering names rows sorted ↔ sorted = rows := by
  rw [IsOrdering, if_neg hmem]

/-- **The order of a direction is one list.** -/
theorem IsOrdering.unique (h : d.IsOrdering names rows sorted)
    (h' : d.IsOrdering names rows sorted') : sorted = sorted' := by
  by_cases hmem : d.column ∈ names
  · rw [isOrdering_iff_of_mem hmem] at h h'
    exact d.order.fromLeast_injective (h.unique h')
  · rw [isOrdering_iff_of_not_mem hmem] at h h'
    exact h.trans h'.symm

end Direction

theorem Query.IsOrdering.unique {q : Query} {names : List String}
    {rows sorted sorted' : List (List Value)} (h : q.IsOrdering names rows sorted)
    (h' : q.IsOrdering names rows sorted') : sorted = sorted' := by
  unfold IsOrdering at h h'
  cases hd : q.direction? with
  | some d =>
    rw [hd] at h h'
    exact Direction.IsOrdering.unique h h'
  | none =>
    rw [hd] at h h'
    exact h.trans h'.symm

/-! ### What the stages do -/

variable {t : Table}

theorem Condition.isRectangular_select (c : Condition) (ht : t.IsRectangular) :
    (c.select t).IsRectangular :=
  (Table.gathers_setFlags ht (c.flags t)).isRectangular

/-- **Selecting keeps the rows that a condition keeps.** -/
theorem Condition.rows_select (c : Condition) (ht : t.IsRectangular) :
    (c.select t).rows = c.keptRows t.columnNames t.rows := by
  rw [select, flags, keptRows]
  cases h : t.column? c.column with
  | none =>
    rw [if_neg (Table.column?_eq_none_iff.1 h)]
    exact t.rows_filterRows_nil
  | some cells =>
    rw [if_pos (Table.mem_columnNames_of_column? h)]
    exact Table.rows_filterRows ht h c.test

theorem Direction.isRectangular_arrange (d : Direction) (t : Table) :
    (d.arrange t).IsRectangular :=
  (t.gathers_cellsInOrder _).isRectangular

/-- **Arranging puts the rows in the order of a direction.** -/
theorem Direction.isOrdering_arrange (d : Direction) (ht : t.IsRectangular) :
    d.IsOrdering t.columnNames t.rows (d.arrange t).rows := by
  rw [rows_arrange, rowOrder]
  cases h : t.column? d.column with
  | none =>
    rw [isOrdering_iff_of_not_mem (Table.column?_eq_none_iff.1 h)]
    rfl
  | some cells =>
    dsimp only
    have hlength : cells.length = t.rowCount := ht _ (Table.column?_eq_some_iff.1 h)
    have hstable := isStableSort_map_ascendingPositions t.cellsAt
      (cellUnder t.columnNames d.column) (Table.cellUnder_cellsAt h)
    rw [hlength] at hstable
    rw [isOrdering_iff_of_mem (Table.mem_columnNames_of_column? h), positions_eq,
      ← SortOrder.fromLeast_map, SortOrder.fromLeast_fromLeast]
    exact hstable

namespace Projection

theorem keeps_of_isWildcard {p : Projection} (h : p.isWildcard = true) (name : String) :
    p.keeps name = true := by
  rw [keeps, h, Bool.true_or]

theorem keeps_of_not_isWildcard {p : Projection} (h : p.isWildcard = false) :
    p.keeps = p.contains := by
  funext name
  rw [keeps, h, Bool.false_or]

/-- The columns that are kept stay in the order of the table. -/
theorem columnNames_restrict (p : Projection) (t : Table) :
    (p.restrict t).columnNames = t.columnNames.filter p.keeps := by
  rw [restrict]
  cases h : p.isWildcard with
  | true =>
    rw [if_pos rfl, List.filter_eq_self.2 fun name _ => keeps_of_isWildcard h name]
  | false =>
    rw [if_neg Bool.false_ne_true, keeps_of_not_isWildcard h, Table.columnNames,
      Table.columns_filterColumns, Array.toList_filter, Table.columnNames, List.filter_map]
    rfl

theorem isRectangular_restrict (p : Projection) (ht : t.IsRectangular) :
    (p.restrict t).IsRectangular := by
  rw [restrict]
  split
  · exact ht
  · exact Table.isRectangular_filterColumns ht p.contains

/-- **Projecting restricts rows**, as long as a column is left. -/
theorem rows_restrict (p : Projection) (ht : t.IsRectangular)
    (hne : (p.restrict t).columnNames ≠ []) :
    (p.restrict t).rows = t.rows.map (restrictRow t.columnNames p.keeps) := by
  rw [restrict] at hne ⊢
  cases h : p.isWildcard with
  | true => rw [if_pos rfl, t.map_restrictRow_rows (keeps_of_isWildcard h)]
  | false =>
    rw [h, if_neg Bool.false_ne_true] at hne
    rw [if_neg Bool.false_ne_true, keeps_of_not_isWildcard h]
    refine Table.rows_filterColumns ht p.contains fun hnil => hne ?_
    rw [Table.columnNames, hnil]
    rfl

end Projection

namespace Query

theorem isRectangular_selected (q : Query) (ht : t.IsRectangular) :
    (q.selected t).IsRectangular := by
  rw [selected]
  cases q.condition? with
  | some c => exact c.isRectangular_select ht
  | none => exact ht

theorem rows_selected (q : Query) (ht : t.IsRectangular) :
    (q.selected t).rows = q.keptRows t.columnNames t.rows := by
  rw [selected, keptRows]
  cases q.condition? with
  | some c => exact c.rows_select ht
  | none => rfl

theorem isRectangular_arranged (q : Query) (ht : t.IsRectangular) :
    (q.arranged t).IsRectangular := by
  rw [arranged]
  cases q.direction? with
  | some d => exact d.isRectangular_arrange t
  | none => exact ht

theorem isOrdering_arranged (q : Query) (ht : t.IsRectangular) :
    q.IsOrdering t.columnNames t.rows (q.arranged t).rows := by
  rw [arranged, IsOrdering]
  cases q.direction? with
  | some d => exact d.isOrdering_arrange ht
  | none => rfl

theorem isRectangular_resultTable (q : Query) (ht : t.IsRectangular) :
    (q.resultTable t).IsRectangular :=
  Projection.isRectangular_restrict _ (q.isRectangular_arranged (q.isRectangular_selected ht))

/-- The columns of a result are those that are kept, in their order. -/
theorem columnNames_resultTable (q : Query) (t : Table) :
    (q.resultTable t).columnNames = t.columnNames.filter q.columns.keeps := by
  rw [resultTable, Projection.columnNames_restrict, columnNames_arranged, columnNames_selected]

/-- The rows that the condition keeps are put in the order of the direction. -/
theorem isOrdering_arranged_selected (q : Query) (ht : t.IsRectangular) :
    q.IsOrdering t.columnNames (q.keptRows t.columnNames t.rows)
      (q.arranged (q.selected t)).rows := by
  have h := q.isOrdering_arranged (q.isRectangular_selected ht)
  rwa [rows_selected q ht, columnNames_selected] at h

/-- **The rows of a result** are the kept rows in order, restricted to the columns that are kept. -/
theorem rows_resultTable {q : Query} {sorted : List (List Value)} (ht : t.IsRectangular)
    (h : q.IsOrdering t.columnNames (q.keptRows t.columnNames t.rows) sorted)
    (hne : (q.resultTable t).columnNames ≠ []) :
    (q.resultTable t).rows = sorted.map (restrictRow t.columnNames q.columns.keeps) := by
  have harranged := q.isRectangular_arranged (q.isRectangular_selected ht)
  rw [resultTable, Projection.rows_restrict _ harranged hne, columnNames_arranged,
    columnNames_selected, (q.isOrdering_arranged_selected ht).unique h]

variable {q : Query} {catalog : Catalog}

/-- **Evaluation computes the meaning of a query** on a valid table: its columns in order,
restricted to those that are listed, and in them the rows that the condition keeps, in the order of
the direction, which is one list. The outcome is a valid table again. -/
theorem evaluate_relational (hsource : catalog.get? q.source = some t)
    (hvalid : t.validate = .ok ()) :
    let result := (q.evaluate catalog).value.table
    let kept := q.keptRows t.columnNames t.rows
    result.columnNames = t.columnNames.filter q.columns.keeps ∧
    (∃! sorted, q.IsOrdering t.columnNames kept sorted) ∧
    (∀ sorted, q.IsOrdering t.columnNames kept sorted → result.columnNames ≠ [] →
      result.rows = sorted.map (restrictRow t.columnNames q.columns.keeps)) ∧
    result.validate = .ok () := by
  intro result kept
  have ht := (t.validate_eq_ok_iff).1 hvalid
  have hresult : result = q.resultTable t := by
    simp only [result, value_evaluate, sourceTable, hsource, Option.getD_some]
  have hordering := q.isOrdering_arranged_selected ht
  rw [hresult]
  refine ⟨q.columnNames_resultTable t, ⟨_, hordering, fun _ h => h.unique hordering⟩,
    fun sorted h hne => rows_resultTable ht h hne, ?_⟩
  exact (Table.validate_eq_ok_iff _).2 (q.isRectangular_resultTable ht)

/-- Three articles with their stock. -/
def articles : Table := .ofColumns
  [⟨"article", [.str "pen", .str "ink", .str "cap"]⟩, ⟨"stock", [.int 4, .null, .int 7]⟩]

theorem columns_articles :
    articles.columns =
      #[⟨"article", [.str "pen", .str "ink", .str "cap"]⟩, ⟨"stock", [.int 4, .null, .int 7]⟩] :=
  Table.columns_ofColumns (by decide)

theorem columnNames_articles : articles.columnNames = ["article", "stock"] := by
  rw [Table.columnNames, columns_articles]
  rfl

theorem rowCount_articles : articles.rowCount = 3 := by
  rw [Table.rowCount, columns_articles]
  rfl

theorem validate_articles : articles.validate = .ok () := by
  rw [Table.validate_eq_ok_iff, Table.IsRectangular, Table.rowCount, columns_articles]
  decide

/-- The articles in stock, from the largest stock to the smallest. -/
def inStock : Query where
  columns := ⟨["article"]⟩
  source := "articles"
  condition? := some ⟨"stock", .greater, .int 0⟩
  direction? := some ⟨"stock", .descending⟩

/-- A query that filters and sorts by a column that it leaves out. -/
theorem evaluate_relational_inStock :
    let catalog := (Catalog.empty {}).insert "articles" articles
    let result := (inStock.evaluate catalog).value.table
    (catalog.get? inStock.source = some articles ∧ articles.validate = .ok ()) ∧
    result.columnNames = ["article"] ∧ result.rows = [[.str "cap"], [.str "pen"]] ∧
    result.validate = .ok () := by
  intro catalog result
  have hsource : catalog.get? inStock.source = some articles := Std.TreeMap.getElem?_insert_self
  have hkept : inStock.keptRows articles.columnNames articles.rows =
      [[.str "pen", .int 4], [.str "cap", .int 7]] := by
    have hrows : articles.rows =
        [[.str "pen", .int 4], [.str "ink", .null], [.str "cap", .int 7]] := by
      rw [Table.rows, rowCount_articles, funext articles.cellsAt_eq, columns_articles]
      rfl
    rw [columnNames_articles, hrows]
    rfl
  obtain ⟨hnames, -, hrows, hresult⟩ := evaluate_relational hsource validate_articles
  rw [hkept, columnNames_articles] at hrows
  rw [columnNames_articles] at hnames
  refine ⟨⟨hsource, validate_articles⟩, hnames,
    hrows [[.str "cap", .int 7], [.str "pen", .int 4]] ?_ ?_, hresult⟩
  · refine ⟨List.Perm.refl _, ?_, fun _ => rfl⟩
    decide
  · exact hnames ▸ List.cons_ne_nil _ _

end Query
end TableQuery
