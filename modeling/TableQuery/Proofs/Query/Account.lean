/-
# The log is an account of the evaluation

What a clause misses it reports where it notices it, and what a stage has done it logs when it is
done. So the records of an evaluation are told by what it misses and by how many rows it hands on,
stage by stage (`Query.account`). Leaving out all but the warnings leaves the texts of the
diagnostics, in order, or nothing where the configuration does not ask for them.

The counts come from different places: from the first columns before and after filtering, from the
positions that sorting puts rows in, and from the tables that the stages return. They agree also on
tables whose columns differ in length.
-/

import TableQuery.Proofs.Clause.Standalone
import TableQuery.Proofs.Query.Meaning

namespace TableQuery

/-- Whether a record says that something is not there. -/
def LogRecord.isWarning (r : LogRecord) : Bool := r.level == .warn

/-! ### Reporting -/

namespace Catalog

/-- The records of diagnostics: their texts as warnings, where the configuration asks for them. -/
def warnings (catalog : Catalog) (diagnostics : List Diagnostic) : List LogRecord :=
  if catalog.config.logDiagnostics then diagnostics.map fun d => ⟨.warn, d.text⟩ else []

variable (catalog : Catalog)

@[simp] theorem warnings_nil : catalog.warnings [] = [] := by
  rw [warnings]
  split <;> rfl

@[simp] theorem warnings_append (ds es : List Diagnostic) :
    catalog.warnings (ds ++ es) = catalog.warnings ds ++ catalog.warnings es := by
  simp only [warnings]
  split
  · exact List.map_append
  · rfl

theorem filter_isWarning_warnings (ds : List Diagnostic) :
    (catalog.warnings ds).filter LogRecord.isWarning = catalog.warnings ds := by
  rw [List.filter_eq_self]
  intro r hr
  rw [warnings] at hr
  split at hr
  · obtain ⟨d, -, rfl⟩ := List.mem_map.1 hr
    rfl
  · cases hr

theorem records_report (d : Diagnostic) :
    (catalog.report d).records = catalog.warnings [d] := by
  rw [report, warnings]
  rfl

theorem records_fetch (name : String) :
    (catalog.fetch name).records = catalog.warnings (catalog.missingAt name) := by
  rw [fetch, missingAt, contains_eq_isSome_get?]
  cases catalog.get? name with
  | some t => simp
  | none => simp [records_report]

end Catalog

/-! ### The stages -/

namespace Condition

/-- What filtering logs of the rows before and after it. -/
def account (c : Condition) (before after : ℕ) : LogRecord :=
  ⟨.trace, "filter " ++ c.sql ++ ": " ++ toString after ++ " of " ++ toString before ++
    " rows kept"⟩

theorem records_classify (c : Condition) (catalog : Catalog) (source : String) (t : Table) :
    (c.classify catalog source t).records =
      catalog.warnings (missing source t.columnNames (some c.column)) := by
  rw [classify]
  cases h : t.column? c.column with
  | some cells => simp [missing_of_column?_eq_some h]
  | none => simp [missing_of_column?_eq_none h, Catalog.records_report]

theorem records_filter (c : Condition) (catalog : Catalog) (source : String) (t : Table) :
    (c.filter catalog source t).records =
      catalog.warnings (missing source t.columnNames (some c.column)) ++
        [c.account t.rowCount (c.select t).rowCount] := by
  rw [filter, Logged.records_bind, records_classify, value_classify]
  rfl

end Condition

namespace Direction

/-- What sorting logs of the rows that it puts in order. -/
def account (d : Direction) (rows : ℕ) : LogRecord :=
  ⟨.trace, "sort " ++ d.sql ++ ": " ++ toString rows ++ " rows"⟩

theorem records_permutation (d : Direction) (catalog : Catalog) (source : String) (t : Table) :
    (d.permutation catalog source t).records =
      catalog.warnings (missing source t.columnNames (some d.column)) := by
  rw [permutation]
  cases h : t.column? d.column with
  | some cells => simp [missing_of_column?_eq_some h]
  | none => simp [missing_of_column?_eq_none h, Catalog.records_report]

theorem records_sort (d : Direction) (catalog : Catalog) (source : String) (t : Table) :
    (d.sort catalog source t).records =
      catalog.warnings (missing source t.columnNames (some d.column)) ++
        [d.account (d.rowOrder t).length] := by
  rw [sort, Logged.records_bind, records_permutation, value_permutation]
  rfl

end Direction

namespace Projection

theorem records_mapM_report (catalog : Catalog) (f : String → Diagnostic) (names : List String) :
    (names.mapM fun name => catalog.report (f name)).records = catalog.warnings (names.map f) := by
  induction names with
  | nil => simp
  | cons name names ih =>
    rw [List.mapM_cons, Logged.records_bind, Logged.records_bind, ih, Catalog.records_report,
      List.map_cons, ← List.singleton_append (l := names.map f), Catalog.warnings_append]
    simp

theorem records_project (p : Projection) (catalog : Catalog) (source : String) (t : Table) :
    (p.project catalog source t).records =
      catalog.warnings (p.unknown catalog.config source t.columnNames) := by
  rw [project, unknown]
  cases hw : p.isWildcard with
  | true => simp
  | false =>
    cases hc : catalog.config.onUnknownProjection with
    | lenient => simp [reportUnknown, hc]
    | strict => simp [reportUnknown, hc, records_mapM_report, unknownNames_eq]

end Projection

/-! ### Counting rows -/

variable {t : Table}

/-- Filtering leaves no more rows, whatever the flags. -/
theorem Table.rowCount_filterRows_le (t : Table) (flags : List Bool) :
    (t.filterRows flags).rowCount ≤ t.rowCount := by
  have hkeep : ∀ values : List Value, (keepFlagged flags values).length ≤ values.length := by
    intro values
    have hzip := List.length_filter_le (·.2) (values.zip flags)
    rw [List.length_zip] at hzip
    rw [keepFlagged, List.length_map]
    omega
  rw [rowCount, rowCount, filterRows, columns_mapColumns, Array.getElem?_map]
  cases t.columns[0]? with
  | none => exact Nat.le_refl _
  | some c => exact hkeep c.values

namespace Query

theorem rowCount_selected_le (q : Query) (t : Table) : (q.selected t).rowCount ≤ t.rowCount := by
  rw [selected]
  cases q.condition? with
  | some c => exact t.rowCount_filterRows_le (c.flags t)
  | none => exact Nat.le_refl _

theorem rowCount_arranged (q : Query) (ht : t.IsRectangular) :
    (q.arranged t).rowCount = t.rowCount := by
  rw [arranged]
  cases q.direction? with
  | some d => exact (d.rowCount_arrange t).trans (d.length_rowOrder ht)
  | none => rfl

/-! ### Whole queries -/

/-- What a stage logs of the rows that it hands on. -/
def rowsLeft (sql : String) (rows : ℕ) : LogRecord :=
  ⟨.debug, sql ++ ": " ++ toString rows ++ " rows"⟩

/-- What a part of a query logs, if it is there: the column that it misses, and what it has done. -/
def partAccount {α : Type} (q : Query) (catalog : Catalog) (names : List String)
    (column : α → String) (done : α → List LogRecord) : Option α → List LogRecord
  | some part => catalog.warnings (missing q.source names (some (column part))) ++ done part
  | none => []

/-- What a query logs: the table that it misses and the rows that it reads, what filtering and
sorting do, and the columns that it cannot project. -/
def account (q : Query) (catalog : Catalog) (names : List String) (read kept sorted : ℕ) :
    List LogRecord :=
  catalog.warnings (catalog.missingAt q.source) ++ [rowsLeft (sourceSql q.source) read] ++
    q.partAccount catalog names Condition.column
      (fun c => [c.account read kept, rowsLeft c.filterSql kept]) q.condition? ++
    q.partAccount catalog names Direction.column
      (fun d => [d.account sorted, rowsLeft d.sortSql sorted]) q.direction? ++
    catalog.warnings (q.columns.unknown catalog.config q.source names)

theorem records_runStage (sql : String) (stage : Table → Logged Evaluation) (e : Evaluation) :
    (runStage sql stage e).records =
      (stage e.table).records ++ [rowsLeft sql (stage e.table).value.table.rowCount] := by
  rw [runStage, Logged.records_bind, Evaluation.records_andThen, Evaluation.value_andThen]
  rfl

theorem records_filterStage (q : Query) (catalog : Catalog) (e : Evaluation) :
    (q.filterStage catalog e).records =
      q.partAccount catalog e.table.columnNames Condition.column
        (fun c => [c.account e.table.rowCount (q.selected e.table).rowCount,
          rowsLeft c.filterSql (q.selected e.table).rowCount]) q.condition? := by
  rw [filterStage, selected]
  cases q.condition? with
  | none => rfl
  | some c => simp [partAccount, records_runStage, Condition.records_filter, Condition.value_filter]

theorem records_sortStage (q : Query) (catalog : Catalog) (e : Evaluation) :
    (q.sortStage catalog e).records =
      q.partAccount catalog e.table.columnNames Direction.column
        (fun d => [d.account (q.arranged e.table).rowCount,
          rowsLeft d.sortSql (q.arranged e.table).rowCount]) q.direction? := by
  rw [sortStage, arranged]
  cases q.direction? with
  | none => rfl
  | some d =>
    simp [partAccount, records_runStage, Direction.records_sort, Direction.value_sort,
      Direction.rowCount_arrange]

/-- **A query logs its account,** the rows being those of the tables that its stages hand on. -/
theorem records_evaluate (q : Query) (catalog : Catalog) :
    (q.evaluate catalog).records =
      q.account catalog (q.sourceTable catalog).columnNames (q.sourceTable catalog).rowCount
        (q.selected (q.sourceTable catalog)).rowCount
        (q.arranged (q.selected (q.sourceTable catalog))).rowCount := by
  simp only [evaluate, account, logRows, Logged.records_bind, Logged.records_send,
    Evaluation.records_andThen, Catalog.records_fetch, records_filterStage, records_sortStage,
    Projection.records_project, value_fetch, value_filterStage, value_sortStage,
    columnNames_selected, columnNames_arranged, List.append_assoc]
  rfl

/-- A part of a query warns of the column that it misses. -/
theorem filter_isWarning_partAccount {α : Type} (q : Query) (catalog : Catalog)
    (names : List String) (column : α → String) {done : α → List LogRecord}
    (hdone : ∀ part, (done part).filter LogRecord.isWarning = []) (part? : Option α) :
    (q.partAccount catalog names column done part?).filter LogRecord.isWarning =
      catalog.warnings (missing q.source names (part?.map column)) := by
  cases part? with
  | some part =>
    rw [partAccount, List.filter_append, Catalog.filter_isWarning_warnings, hdone,
      List.append_nil, Option.map_some]
  | none => exact catalog.warnings_nil.symm

/-- The warnings in the account of a query are the texts of what it misses. -/
theorem filter_isWarning_account (q : Query) (catalog : Catalog) (names : List String)
    (read kept sorted : ℕ) :
    (q.account catalog names read kept sorted).filter LogRecord.isWarning =
      catalog.warnings (q.misses catalog.config (catalog.contains q.source) names) := by
  have hread : [rowsLeft (sourceSql q.source) read].filter LogRecord.isWarning = [] := rfl
  simp only [account, misses, List.filter_append, hread, Catalog.filter_isWarning_warnings,
    List.append_nil, Catalog.warnings_append]
  rw [filter_isWarning_partAccount q catalog names _ fun _ => rfl,
    filter_isWarning_partAccount q catalog names _ fun _ => rfl]
  rfl

end Query

/-! ### Clauses that stand alone -/

theorem Condition.records_filterSelection (c : Condition) (catalog : Catalog) :
    (c.filterSelection catalog).records = catalog.warnings (catalog.missingSelected c.column) ++
      [c.account catalog.selected.rowCount (c.select catalog.selected).rowCount] := by
  rw [filterSelection, Logged.records_bind, Evaluation.records_andThen, Catalog.value_fetch,
    Catalog.records_fetch, records_filter, Catalog.missingSelected, Catalog.warnings_append,
    List.append_assoc]
  rfl

theorem Condition.records_classifySelection (c : Condition) (catalog : Catalog) :
    (c.classifySelection catalog).records =
      catalog.warnings (catalog.missingSelected c.column) := by
  rw [classifySelection, Logged.records_bind, Evaluation.records_andThen, Catalog.value_fetch,
    Catalog.records_fetch, Logged.records_bind, records_classify, Catalog.missingSelected,
    Catalog.warnings_append]
  exact congrArg _ (List.append_nil _)

theorem Direction.records_sortSelection (d : Direction) (catalog : Catalog) :
    (d.sortSelection catalog).records = catalog.warnings (catalog.missingSelected d.column) ++
      [d.account (d.rowOrder catalog.selected).length] := by
  rw [sortSelection, Logged.records_bind, Evaluation.records_andThen, Catalog.value_fetch,
    Catalog.records_fetch, records_sort, Catalog.missingSelected, Catalog.warnings_append,
    List.append_assoc]
  rfl

theorem Direction.records_orderSelection (d : Direction) (catalog : Catalog) :
    (d.orderSelection catalog).records =
      catalog.warnings (catalog.missingSelected d.column) := by
  rw [orderSelection, Logged.records_bind, Evaluation.records_andThen, Catalog.value_fetch,
    Catalog.records_fetch, Logged.records_bind, records_permutation, Catalog.missingSelected,
    Catalog.warnings_append]
  exact congrArg _ (List.append_nil _)

/-- **What a clause warns of are the texts of what it misses,** in order. -/
theorem Clause.filter_isWarning_records (clause : Clause) (catalog : Catalog) :
    (clause.evaluate catalog).records.filter LogRecord.isWarning =
      catalog.warnings (clause.evaluate catalog).value.diagnostics := by
  cases clause with
  | query q =>
    rw [evaluate, q.records_evaluate, q.filter_isWarning_account, q.value_evaluate]
  | source name =>
    rw [evaluate, Catalog.records_fetch, Catalog.filter_isWarning_warnings, Catalog.value_fetch]
  | filter c =>
    rw [evaluate, c.records_filterSelection, List.filter_append,
      Catalog.filter_isWarning_warnings, c.value_filterSelection]
    exact List.append_nil _
  | condition c =>
    rw [evaluate, c.records_classifySelection, Catalog.filter_isWarning_warnings,
      c.value_classifySelection]
  | sorting d =>
    rw [evaluate, d.records_sortSelection, List.filter_append,
      Catalog.filter_isWarning_warnings, d.value_sortSelection]
    exact List.append_nil _
  | direction d =>
    rw [evaluate, d.records_orderSelection, Catalog.filter_isWarning_warnings,
      d.value_orderSelection]
  | projection p => exact catalog.warnings_nil.symm

/-- **The log is an account of the evaluation.** The warnings of a clause are the texts of the
diagnostics that it returns, in order, and there are none where the configuration does not ask for
them. A query logs nothing but its account: the rows that it reads, those that its condition keeps,
which are no more, and those that it sorts, which are all of them if the table is valid. -/
theorem log_account (catalog : Catalog) :
    (∀ clause : Clause,
      let evaluation := clause.evaluate catalog
      evaluation.records.filter LogRecord.isWarning =
        if catalog.config.logDiagnostics then
          evaluation.value.diagnostics.map fun d => ⟨.warn, d.text⟩
        else []) ∧
    ∀ q : Query,
      let source := q.sourceTable catalog
      let read := source.rowCount
      let kept := (q.selected source).rowCount
      let sorted := (q.arranged (q.selected source)).rowCount
      (q.evaluate catalog).records = q.account catalog source.columnNames read kept sorted ∧
      kept ≤ read ∧ (source.validate = .ok () → sorted = kept) := by
  refine ⟨fun clause => clause.filter_isWarning_records catalog, fun q => ?_⟩
  refine ⟨q.records_evaluate catalog, q.rowCount_selected_le _, fun hvalid => ?_⟩
  have ht := (Table.validate_eq_ok_iff _).1 hvalid
  exact q.rowCount_arranged (q.isRectangular_selected ht)

open Query in
/-- The log of a query that keeps two of three articles. -/
theorem log_account_inStock :
    let catalog := (Catalog.empty {}).insert "articles" articles
    articles.validate = .ok () ∧ (inStock.evaluate catalog).records =
      [⟨.debug, "FROM articles: 3 rows"⟩, ⟨.trace, "filter stock > 0: 2 of 3 rows kept"⟩,
        ⟨.debug, "WHERE stock > 0: 2 rows"⟩, ⟨.trace, "sort stock DESC: 2 rows"⟩,
        ⟨.debug, "ORDER BY stock DESC: 2 rows"⟩] := by
  intro catalog
  have hget : catalog.get? inStock.source = some articles := Catalog.get?_insert_self _ _ _
  have hsource : inStock.sourceTable catalog = articles := by rw [sourceTable, hget]; rfl
  have hmissing : catalog.missingAt inStock.source = [] := by
    rw [Catalog.missingAt, Catalog.contains_eq_isSome_get?, hget]
    rfl
  have hstock : articles.column? "stock" = some [.int 4, .null, .int 7] := by
    rw [Table.column?_eq_some_iff, columns_articles]
    simp
  have hkept : (inStock.selected articles).rowCount = 2 := by
    change (articles.filterRows (Condition.flags ⟨"stock", .greater, .int 0⟩ articles)).rowCount = 2
    rw [Condition.flags, hstock, Table.filterRows, Table.rowCount, Table.columns_mapColumns,
      columns_articles, List.map_toArray]
    rfl
  obtain ⟨hrecords, -, hsorted⟩ := (log_account catalog).2 inStock
  rw [hsource] at hrecords hsorted
  refine ⟨validate_articles, ?_⟩
  rw [hrecords, hsorted validate_articles, rowCount_articles, hkept, columnNames_articles, account,
    hmissing]
  rfl

end TableQuery
