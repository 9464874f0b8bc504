/-
# Sessions keep tables rectangular

A session changes a catalog step by step: a table is registered after validation, one is erased, the
configuration is replaced, or a clause is evaluated and its table registered without validation.
What a session never registers is a table that validation refuses. For a clause on a catalog of
valid tables gives a valid one (`Clause.isRectangular_table`), so a step keeps all tables valid
(`IsRectangular.apply`), and so does a session.
-/

import TableQuery.Proofs.Clause.Standalone
import TableQuery.Proofs.Query.Meaning

namespace TableQuery

namespace Table

theorem isRectangular_empty : empty.IsRectangular := fun _ hc => absurd hc (Array.not_mem_empty _)

/-- A table of one column is rectangular. -/
theorem isRectangular_withColumn_empty {α : Type} [ToValue α] (name : String) (elements : List α) :
    (empty.withColumn name elements).IsRectangular := by
  refine isRectangular_of_length (n := elements.length) fun c hc => ?_
  rw [columns_withColumn_empty] at hc
  obtain rfl := Array.eq_of_mem_singleton hc
  exact List.length_map _

end Table

namespace Catalog

variable {catalog : Catalog} {t : Table}

/-- Whether all tables are rectangular. -/
def IsRectangular (catalog : Catalog) : Prop :=
  ∀ name t, catalog.get? name = some t → t.IsRectangular

theorem IsRectangular.tableAt (h : catalog.IsRectangular) (name : String) :
    (catalog.tableAt name).IsRectangular := by
  rw [Catalog.tableAt]
  cases ht : catalog.get? name with
  | some t => exact h name t ht
  | none => exact Table.isRectangular_empty

theorem IsRectangular.insert (h : catalog.IsRectangular) (name : String) (ht : t.IsRectangular) :
    (catalog.insert name t).IsRectangular := by
  intro n u hu
  rw [get?_insert] at hu
  split at hu
  · rwa [← Option.some.inj hu]
  · exact h n u hu

theorem IsRectangular.erase (h : catalog.IsRectangular) (name : String) :
    (catalog.erase name).IsRectangular := by
  intro n u hu
  rw [get?_erase] at hu
  split at hu
  · cases hu
  · exact h n u hu

end Catalog

/-- **A clause on rectangular tables gives a rectangular one.** -/
theorem Clause.isRectangular_table (clause : Clause) {catalog : Catalog}
    (h : catalog.IsRectangular) : (clause.table catalog).IsRectangular := by
  cases clause with
  | query q => exact q.isRectangular_resultTable (h.tableAt q.source)
  | source name => exact h.tableAt name
  | filter c => exact c.isRectangular_select (h.tableAt Catalog.selection)
  | condition c => exact Table.isRectangular_withColumn_empty _ _
  | sorting d => exact d.isRectangular_arrange _
  | direction d => exact Table.isRectangular_withColumn_empty _ _
  | projection p => exact Table.isRectangular_withColumn_empty _ _

/-! ### Steps -/

/-- A step of a session. -/
inductive SessionStep where
  /-- Registers a table, unless validation refuses it. -/
  | tryInsert (name : String) (t : Table)
  | erase (name : String)
  | configure (config : Config)
  /-- Evaluates a clause and registers its table. -/
  | store (name : String) (clause : Clause)

namespace SessionStep

/-- The catalog after a step. -/
def apply (step : SessionStep) (catalog : Catalog) : Catalog :=
  match step with
  | tryInsert name t =>
    match (Catalog.tryInsert name t).run catalog with
    | .ok _ next => next
    | .error _ next => next
  | erase name => catalog.erase name
  | configure config => { catalog with config := config }
  | store name clause => catalog.insert name (clause.evaluate catalog).value.table

/-- The catalog after the steps of a session, which begins without tables. -/
def run (config : Config) (steps : List SessionStep) : Catalog :=
  steps.foldl (fun catalog step => step.apply catalog) (.empty config)

end SessionStep

namespace Catalog

variable {catalog next : Catalog} {name : String} {t : Table} {error : QueryError}

/-- Validation decides what happens, before the catalog changes. -/
theorem run_tryInsert (catalog : Catalog) (name : String) (t : Table) :
    (tryInsert name t).run catalog =
      match t.validate with
      | .ok () => .ok () (catalog.insert name t)
      | .error error => .error error catalog := by
  rw [tryInsert]
  cases t.validate <;> rfl

/-- **A table is refused for the reason that validation gives,** and the catalog stays. -/
theorem run_tryInsert_eq_error_iff :
    (tryInsert name t).run catalog = .error error next ↔
      t.validate = .error error ∧ next = catalog := by
  rw [run_tryInsert]
  cases t.validate with
  | ok => exact iff_of_false (fun h => nomatch h) fun h => nomatch h.1
  | error e => simp [eq_comm]

theorem run_tryInsert_of_validate (h : t.validate = .ok ()) :
    (tryInsert name t).run catalog = .ok () (catalog.insert name t) := by
  rw [run_tryInsert, h]

/-- **A step keeps tables rectangular.** -/
theorem IsRectangular.apply (h : catalog.IsRectangular) (step : SessionStep) :
    (step.apply catalog).IsRectangular := by
  cases step with
  | tryInsert name t =>
    cases hvalid : t.validate with
    | ok =>
      rw [SessionStep.apply, run_tryInsert_of_validate hvalid]
      exact h.insert name (t.validate_eq_ok_iff.1 hvalid)
    | error e =>
      rw [SessionStep.apply, run_tryInsert_eq_error_iff.2 ⟨hvalid, rfl⟩]
      exact h
  | erase name => exact h.erase name
  | configure config => exact h
  | store name clause =>
    rw [SessionStep.apply, clause.table_evaluate]
    exact h.insert name (clause.isRectangular_table h)

/-- **A session keeps tables rectangular.** -/
theorem IsRectangular.foldl_apply (steps : List SessionStep) (h : catalog.IsRectangular) :
    (steps.foldl (fun catalog step => step.apply catalog) catalog).IsRectangular := by
  induction steps generalizing catalog with
  | nil => exact h
  | cons step steps ih => exact ih (h.apply step)

theorem isRectangular_empty (config : Config) : (empty config).IsRectangular := by
  intro name t ht
  rw [get?_empty] at ht
  cases ht

end Catalog

namespace SessionStep

/-- **After every step of a session all tables are valid,** and so are the tables that clauses give.
A table is registered if it is valid. If it is refused, that is what validation says, and the
catalog that is handed on is the one there was. Sorting gives a valid table whatever it sorts. -/
theorem run_valid (config : Config) (steps : List SessionStep) :
    let catalog := run config steps
    (∀ name t, catalog.get? name = some t → t.validate = .ok ()) ∧
    (∀ clause : Clause, (clause.evaluate catalog).value.table.validate = .ok ()) ∧
    (∀ name t error next, (Catalog.tryInsert name t).run catalog = .error error next →
      t.validate = .error error ∧ next = catalog ∧
        ∀ n, ((tryInsert name t).apply catalog).get? n = catalog.get? n) ∧
    (∀ name t, t.validate = .ok () →
      (∃ next, (Catalog.tryInsert name t).run catalog = .ok () next) ∧
        ∀ n, ((tryInsert name t).apply catalog).get? n =
          if name = n then some t else catalog.get? n) ∧
    ∀ (d : Direction) (c : Catalog) source t,
      (d.sort c source t).value.table.validate = .ok () := by
  intro catalog
  have h : catalog.IsRectangular := (Catalog.isRectangular_empty config).foldl_apply steps
  refine ⟨fun name t ht => t.validate_eq_ok_iff.2 (h name t ht), fun clause => ?_,
    fun name t error next herror => ?_, fun name t hvalid => ?_, fun d c source t => ?_⟩
  · rw [Table.validate_eq_ok_iff, clause.table_evaluate]
    exact clause.isRectangular_table h
  · obtain ⟨hvalid, rfl⟩ := Catalog.run_tryInsert_eq_error_iff.1 herror
    refine ⟨hvalid, rfl, fun n => ?_⟩
    rw [apply, herror]
  · have hok : (Catalog.tryInsert name t).run catalog = .ok () (catalog.insert name t) :=
      Catalog.run_tryInsert_of_validate hvalid
    refine ⟨⟨_, hok⟩, fun n => ?_⟩
    rw [apply, hok, Catalog.get?_insert]
  · rw [Table.validate_eq_ok_iff, d.value_sort]
    exact d.isRectangular_arrange t

end SessionStep
end TableQuery
