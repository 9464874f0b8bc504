/-
# What the stages of a query compute

A stage looks names up, reports those it misses and hands a table on. Its value comes apart
(`Query.value_evaluate`): the table is a function of the queried table alone, and the diagnostics
are a function of the configuration and of the names of the columns. For no stage before the
projection changes these names, so every name is looked up among those of the queried table.
-/

import TableQuery.Query
import TableQuery.Table.Lemmas

namespace TableQuery

/-- The diagnostic of the column, if there is one that is not among the names. -/
def missing (source : String) (names : List String) (column? : Option String) : List Diagnostic :=
  (column?.toList.filter fun column => column ∉ names).map (.missingColumn source)

theorem missing_of_column?_eq_some {t : Table} {column : String} {cells : List Value}
    (h : t.column? column = some cells) (source : String) :
    missing source t.columnNames (some column) = [] := by
  simp [missing, Table.mem_columnNames_of_column? h]

theorem missing_of_column?_eq_none {t : Table} {column : String} (h : t.column? column = none)
    (source : String) :
    missing source t.columnNames (some column) = [.missingColumn source column] := by
  simp [missing, Table.column?_eq_none_iff.1 h]

/-- The missing column as an optional diagnostic. -/
theorem withOptional_head?_missing (t : Table) (source : String) (names : List String)
    (column : String) :
    (Evaluation.ofTable t).withOptional (missing source names (some column)).head? =
      ⟨t, missing source names (some column)⟩ := by
  by_cases h : column ∈ names <;> simp [missing, h, Evaluation.withOptional, Evaluation.ofTable]

/-! ### Fetching -/

namespace Catalog

/-- The table under a name, the empty one where none is registered. -/
def tableAt (catalog : Catalog) (name : String) : Table := (catalog.get? name).getD .empty

/-- The diagnostic of a name under which no table is registered. -/
def missingAt (catalog : Catalog) (name : String) : List Diagnostic :=
  if catalog.contains name then [] else [.missingTable name]

theorem value_fetch (catalog : Catalog) (name : String) :
    (catalog.fetch name).value = ⟨catalog.tableAt name, catalog.missingAt name⟩ := by
  rw [fetch, tableAt, missingAt, contains_eq_isSome_get?]
  cases catalog.get? name <;> rfl

end Catalog

/-! ### Filtering -/

namespace Condition

/-- A flag for each cell of the column, and none where there is no such column. -/
def flags (c : Condition) (t : Table) : List Bool :=
  match t.column? c.column with
  | some cells => cells.map c.test
  | none => []

/-- The cells that a condition tests, none where there is no such column. -/
def cells (c : Condition) (t : Table) : List Value := (t.column? c.column).getD []

theorem flags_eq (c : Condition) (t : Table) : c.flags t = (c.cells t).map c.test := by
  rw [flags, cells]
  cases t.column? c.column <;> rfl

/-- The rows that satisfy the condition. -/
def select (c : Condition) (t : Table) : Table := t.filterRows (c.flags t)

@[simp] theorem columnNames_select (c : Condition) (t : Table) :
    (c.select t).columnNames = t.columnNames := Table.columnNames_mapColumns _

theorem value_classify (c : Condition) (catalog : Catalog) (source : String) (t : Table) :
    (c.classify catalog source t).value =
      (c.flags t, (missing source t.columnNames (some c.column)).head?) := by
  rw [classify, flags]
  cases h : t.column? c.column with
  | some cells => rw [missing_of_column?_eq_some h]; rfl
  | none => rw [missing_of_column?_eq_none h]; rfl

theorem value_filter (c : Condition) (catalog : Catalog) (source : String) (t : Table) :
    (c.filter catalog source t).value =
      ⟨c.select t, missing source t.columnNames (some c.column)⟩ := by
  rw [filter, Logged.value_bind, value_classify]
  exact withOptional_head?_missing _ _ _ _

end Condition

/-! ### Sorting -/

namespace Direction

/-- The rows by their place in the order of the direction. -/
def rowOrder (d : Direction) (t : Table) : List Nat :=
  match t.column? d.column with
  | some cells => d.positions cells
  | none => List.range t.rowCount

/-- The rows in the order of the direction. -/
def arrange (d : Direction) (t : Table) : Table := t.reorderRows (d.rowOrder t)

@[simp] theorem columnNames_arrange (d : Direction) (t : Table) :
    (d.arrange t).columnNames = t.columnNames := Table.columnNames_mapColumns _

theorem value_permutation (d : Direction) (catalog : Catalog) (source : String) (t : Table) :
    (d.permutation catalog source t).value =
      (d.rowOrder t, (missing source t.columnNames (some d.column)).head?) := by
  rw [permutation, rowOrder]
  cases h : t.column? d.column with
  | some cells => rw [missing_of_column?_eq_some h]; rfl
  | none => rw [missing_of_column?_eq_none h]; rfl

theorem value_sort (d : Direction) (catalog : Catalog) (source : String) (t : Table) :
    (d.sort catalog source t).value =
      ⟨d.arrange t, missing source t.columnNames (some d.column)⟩ := by
  rw [sort, Logged.value_bind, value_permutation]
  exact withOptional_head?_missing _ _ _ _

end Direction

/-! ### Projecting -/

namespace Projection

/-- Whether a column is kept. -/
def keeps (p : Projection) (name : String) : Bool := p.isWildcard || p.contains name

/-- The columns that are kept. -/
def restrict (p : Projection) (t : Table) : Table :=
  if p.isWildcard then t else t.filterColumns p.contains

/-- A diagnostic for each listed name that is not there, under a strict configuration. -/
def unknown (p : Projection) (config : Config) (source : String) (names : List String) :
    List Diagnostic :=
  if config.onUnknownProjection = .strict ∧ p.isWildcard = false then
    (p.names.filter fun name => name ∉ names).map (.unknownProjection source)
  else []

theorem unknownNames_eq (p : Projection) (t : Table) :
    p.unknownNames t = p.names.filter fun name => name ∉ t.columnNames := by
  rw [unknownNames]
  congr 1
  funext name
  rw [Bool.eq_iff_iff, Bool.not_eq_true', decide_eq_true_iff, Bool.eq_false_iff, ne_eq,
    Table.contains_iff]

/-- Reporting hands the diagnostics on as they are. -/
theorem value_mapM_report (catalog : Catalog) (f : String → Diagnostic) (names : List String) :
    (names.mapM fun name => catalog.report (f name)).value = names.map f := by
  induction names with
  | nil => rfl
  | cons name names ih =>
    rw [List.mapM_cons, Logged.value_bind, Logged.value_bind, ih]
    rfl

theorem value_project (p : Projection) (catalog : Catalog) (source : String) (t : Table) :
    (p.project catalog source t).value =
      ⟨p.restrict t, p.unknown catalog.config source t.columnNames⟩ := by
  rw [project, restrict, unknown]
  cases hw : p.isWildcard with
  | true => simp [Evaluation.ofTable]
  | false =>
    cases hc : catalog.config.onUnknownProjection with
    | lenient => simp [reportUnknown, hc]
    | strict => simp [reportUnknown, hc, value_mapM_report, unknownNames_eq]

end Projection

/-! ### Whole queries -/

namespace Query

/-- The table that a query reads, the empty one where none is registered. -/
def sourceTable (q : Query) (catalog : Catalog) : Table := (catalog.get? q.source).getD .empty

/-- The rows that are left by the condition, if there is one. -/
def selected (q : Query) (t : Table) : Table :=
  match q.condition? with
  | some c => c.select t
  | none => t

/-- The rows in the order of the direction, if there is one. -/
def arranged (q : Query) (t : Table) : Table :=
  match q.direction? with
  | some d => d.arrange t
  | none => t

/-- The table that a query makes of the one it reads. -/
def resultTable (q : Query) (t : Table) : Table := q.columns.restrict (q.arranged (q.selected t))

/-- What a query misses, by the names that are there and the configuration. -/
def misses (q : Query) (config : Config) (registered : Bool) (names : List String) :
    List Diagnostic :=
  (if registered then [] else [.missingTable q.source]) ++
    missing q.source names (q.condition?.map Condition.column) ++
    missing q.source names (q.direction?.map Direction.column) ++
    q.columns.unknown config q.source names

theorem columnNames_selected (q : Query) (t : Table) :
    (q.selected t).columnNames = t.columnNames := by
  rw [selected]
  split
  · exact Condition.columnNames_select _ t
  · rfl

theorem columnNames_arranged (q : Query) (t : Table) :
    (q.arranged t).columnNames = t.columnNames := by
  rw [arranged]
  split
  · exact Direction.columnNames_arrange _ t
  · rfl

theorem value_fetch (q : Query) (catalog : Catalog) :
    (catalog.fetch q.source).value =
      ⟨q.sourceTable catalog,
        if catalog.contains q.source then [] else [.missingTable q.source]⟩ :=
  catalog.value_fetch q.source

theorem value_filterStage (q : Query) (catalog : Catalog) (e : Evaluation) :
    (q.filterStage catalog e).value =
      ⟨q.selected e.table, e.diagnostics ++
        missing q.source e.table.columnNames (q.condition?.map Condition.column)⟩ := by
  rw [filterStage, selected]
  cases q.condition? with
  | none => simp [missing]
  | some c => simp [runStage, Condition.value_filter, Evaluation.followedBy]

theorem value_sortStage (q : Query) (catalog : Catalog) (e : Evaluation) :
    (q.sortStage catalog e).value =
      ⟨q.arranged e.table, e.diagnostics ++
        missing q.source e.table.columnNames (q.direction?.map Direction.column)⟩ := by
  rw [sortStage, arranged]
  cases q.direction? with
  | none => simp [missing]
  | some d => simp [runStage, Direction.value_sort, Evaluation.followedBy]

/-- **A query's table depends on the queried table alone, its diagnostics on names and the
configuration alone.** -/
theorem value_evaluate (q : Query) (catalog : Catalog) :
    (q.evaluate catalog).value =
      ⟨q.resultTable (q.sourceTable catalog),
        q.misses catalog.config (catalog.contains q.source)
          (q.sourceTable catalog).columnNames⟩ := by
  simp only [evaluate, Logged.value_bind, Evaluation.value_andThen, value_fetch,
    value_filterStage, value_sortStage, Projection.value_project, Evaluation.followedBy,
    columnNames_selected, columnNames_arranged, resultTable, misses]

end Query
end TableQuery
