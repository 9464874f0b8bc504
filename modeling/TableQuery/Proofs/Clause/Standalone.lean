/-
# What clauses that stand alone compute

A clause without a query around it reads the selection. Its value comes apart like that of a query:
the table is a function of the selected table alone, and the diagnostics say whether there is one
and whether it has the column that the clause names.
-/

import TableQuery.Clause
import TableQuery.Proofs.Query.Stages

namespace TableQuery

namespace Catalog

/-- The table that clauses standing alone read. -/
def selected (catalog : Catalog) : Table := catalog.tableAt selection

/-- What a clause that names a column misses of the selection. -/
def missingSelected (catalog : Catalog) (column : String) : List Diagnostic :=
  catalog.missingAt selection ++ missing selection catalog.selected.columnNames (some column)

@[simp] theorem selected_insert_selection (catalog : Catalog) (t : Table) :
    (catalog.insert selection t).selected = t := by
  rw [selected, tableAt, get?_insert_self, Option.getD_some]

@[simp] theorem missingSelected_insert_selection (catalog : Catalog) (t : Table) (column : String) :
    (catalog.insert selection t).missingSelected column =
      missing selection t.columnNames (some column) := by
  rw [missingSelected, missingAt, contains_eq_isSome_get?, get?_insert_self,
    selected_insert_selection, Option.isSome_some, if_pos rfl, List.nil_append]

end Catalog

/-- A description is a table of one column. -/
theorem Table.columns_withColumn_empty {α : Type} [ToValue α] (name : String) (elements : List α) :
    (empty.withColumn name elements).columns = #[⟨name, elements.map ToValue.toValue⟩] := by
  have hnew : empty.contains name = false := by
    rw [Bool.eq_false_iff, ne_eq, contains_iff]
    exact List.not_mem_nil
  rw [withColumn, columns_insert_of_not_contains hnew]
  rfl

theorem Table.column?_withColumn_empty {α : Type} [ToValue α] (name : String) (elements : List α) :
    (empty.withColumn name elements).column? name = some (elements.map ToValue.toValue) := by
  rw [column?_eq_some_iff, columns_withColumn_empty]
  exact Array.mem_singleton_self _

namespace Condition

theorem value_filterSelection (c : Condition) (catalog : Catalog) :
    (c.filterSelection catalog).value =
      ⟨c.select catalog.selected, catalog.missingSelected c.column⟩ := by
  rw [filterSelection, Logged.value_bind, Evaluation.value_andThen, Catalog.value_fetch,
    value_filter]
  rfl

theorem value_classifySelection (c : Condition) (catalog : Catalog) :
    (c.classifySelection catalog).value =
      ⟨Table.empty.withColumn classifierColumn (c.flags catalog.selected),
        catalog.missingSelected c.column⟩ := by
  rw [classifySelection, Logged.value_bind, Evaluation.value_andThen, Catalog.value_fetch,
    Logged.value_bind, value_classify]
  exact congrArg (Evaluation.followedBy _) (withOptional_head?_missing _ _ _ _)

end Condition

namespace Direction

theorem value_sortSelection (d : Direction) (catalog : Catalog) :
    (d.sortSelection catalog).value =
      ⟨d.arrange catalog.selected, catalog.missingSelected d.column⟩ := by
  rw [sortSelection, Logged.value_bind, Evaluation.value_andThen, Catalog.value_fetch,
    value_sort]
  rfl

theorem value_orderSelection (d : Direction) (catalog : Catalog) :
    (d.orderSelection catalog).value =
      ⟨Table.empty.withColumn orderColumn ((d.rowOrder catalog.selected).map Int64.ofNat),
        catalog.missingSelected d.column⟩ := by
  rw [orderSelection, Logged.value_bind, Evaluation.value_andThen, Catalog.value_fetch,
    Logged.value_bind, value_permutation]
  exact congrArg (Evaluation.followedBy _) (withOptional_head?_missing _ _ _ _)

end Direction

namespace Clause

/-- The table that a clause gives. -/
def table (clause : Clause) (catalog : Catalog) : Table :=
  match clause with
  | query q => q.resultTable (q.sourceTable catalog)
  | source name => catalog.tableAt name
  | filter c => c.select catalog.selected
  | condition c => Table.empty.withColumn Condition.classifierColumn (c.flags catalog.selected)
  | sorting d => d.arrange catalog.selected
  | direction d =>
    Table.empty.withColumn Direction.orderColumn ((d.rowOrder catalog.selected).map Int64.ofNat)
  | projection p => Table.empty.withColumn Projection.literalsColumn p.names

/-- **Every clause gives a table that its input alone determines.** -/
theorem table_evaluate (clause : Clause) (catalog : Catalog) :
    (clause.evaluate catalog).value.table = clause.table catalog := by
  cases clause with
  | query q => exact congrArg Evaluation.table (q.value_evaluate catalog)
  | source name => exact congrArg Evaluation.table (catalog.value_fetch name)
  | filter c => exact congrArg Evaluation.table (c.value_filterSelection catalog)
  | condition c => exact congrArg Evaluation.table (c.value_classifySelection catalog)
  | sorting d => exact congrArg Evaluation.table (d.value_sortSelection catalog)
  | direction d => exact congrArg Evaluation.table (d.value_orderSelection catalog)
  | projection p => rfl

end Clause
end TableQuery
