/-
# Queries by way of the selection

A query hands its table on from clause to clause. It can also go by way of the catalog: in a copy of
it the current table is registered as the selection, and the next clause reads it there. Both ways
come to the same (`Query.evaluate_eq_byRegister`), also where the catalog has a selection of its own
or the query reads that. Only the diagnostics of missing columns differ, since a clause that reads
the selection does not know which table it was made from.

The two ways are kept in step clause by clause (`Register.Simulates`): the catalog changes under the
selection alone, and every clause overwrites what the one before it has left there.
-/

import TableQuery.Proofs.Clause.Standalone

namespace TableQuery

/-- The diagnostic with a table named in place of the selection as the one that lacks a column. -/
def Diagnostic.retarget (source : String) : Diagnostic → Diagnostic
  | missingColumn table column =>
    .missingColumn (if table = Catalog.selection then source else table) column
  | missingTable name => .missingTable name
  | unknownProjection table column => .unknownProjection table column

/-- A catalog that holds the current table as its selection, and what the clauses so far gave. -/
structure Register where
  catalog : Catalog
  evaluation : Evaluation

namespace Register

/-- Registers the current table as the selection and evaluates a clause that reads it there. -/
def advance (r : Register) (clause : Clause) : Logged Register := do
  let catalog := r.catalog.insert Catalog.selection r.evaluation.table
  let next ← clause.evaluate catalog
  return ⟨catalog, r.evaluation.followedBy next⟩

/-- Advances by a clause, if there is one. -/
def advance? (r : Register) : Option Clause → Logged Register
  | some clause => r.advance clause
  | none => return r

end Register

/-- Evaluates a query by way of the selection. -/
def Query.evaluateByRegister (q : Query) (catalog : Catalog) : Logged Evaluation := do
  let source ← (Clause.source q.source).evaluate catalog
  let filtered ← Register.advance? ⟨catalog, source⟩ (q.condition?.map .filter)
  let sorted ← filtered.advance? (q.direction?.map .sorting)
  sorted.evaluation.andThen (q.columns.project sorted.catalog q.source)

/-! ### Naming the table that lacks a column -/

theorem Diagnostic.map_retarget_missing (source : String) (names : List String)
    (column? : Option String) :
    (missing Catalog.selection names column?).map (retarget source) =
      missing source names column? := by
  rw [missing, missing, List.map_map]
  refine List.map_congr_left fun column _ => ?_
  rw [Function.comp_apply, retarget, if_pos rfl]

theorem Diagnostic.map_retarget_missingAt (source : String) (catalog : Catalog) (name : String) :
    (catalog.missingAt name).map (retarget source) = catalog.missingAt name := by
  rw [Catalog.missingAt]
  split <;> rfl

theorem Diagnostic.map_retarget_unknown (source : String) (p : Projection) (config : Config)
    (name : String) (names : List String) :
    (p.unknown config name names).map (retarget source) = p.unknown config name names := by
  rw [Projection.unknown]
  split
  · rw [List.map_map]
    rfl
  · rfl

/-- Only clauses that look a column up in the selection miss it there. -/
theorem Diagnostic.missingColumn_not_mem_missingAt (table column : String) (catalog : Catalog)
    (name : String) : missingColumn table column ∉ catalog.missingAt name := by
  rw [Catalog.missingAt]
  split <;> simp

theorem Diagnostic.missingColumn_not_mem_unknown (table column : String) (p : Projection)
    (config : Config) (name : String) (names : List String) :
    missingColumn table column ∉ p.unknown config name names := by
  rw [Projection.unknown]
  split <;> simp

/-! ### One clause -/

namespace Register

variable {source : String} {catalog : Catalog} {r : Register} {e : Evaluation}

/-- The register stands where handing the table on has led to `e`. -/
structure Simulates (source : String) (catalog : Catalog) (r : Register) (e : Evaluation) :
    Prop where
  config : r.catalog.config = catalog.config
  table : r.evaluation.table = e.table
  diagnostics : r.evaluation.diagnostics.map (Diagnostic.retarget source) = e.diagnostics
  /-- Missing columns are missing from the selection. -/
  fromSelection : ∀ table column, .missingColumn table column ∈ r.evaluation.diagnostics →
    table = Catalog.selection

/-- Both ways begin with the table that the query names. -/
theorem simulates_fetch (source : String) (catalog : Catalog) :
    Simulates source catalog ⟨catalog, (catalog.fetch source).value⟩
      (catalog.fetch source).value where
  config := rfl
  table := rfl
  diagnostics := by
    rw [Catalog.value_fetch]
    exact Diagnostic.map_retarget_missingAt source catalog source
  fromSelection table column h := by
    rw [Catalog.value_fetch] at h
    exact absurd h (Diagnostic.missingColumn_not_mem_missingAt table column catalog source)

/-- **A clause keeps both ways in step** if it makes a table of the selected one alone, and misses
the column that it names. -/
theorem Simulates.advance (h : r.Simulates source catalog e) {clause : Clause}
    {f : Table → Table} {column : String}
    (hclause : ∀ (catalog : Catalog) t,
      (clause.evaluate (catalog.insert Catalog.selection t)).value =
        ⟨f t, missing Catalog.selection t.columnNames (some column)⟩) :
    (r.advance clause).value.Simulates source catalog
      ⟨f e.table, e.diagnostics ++ missing source e.table.columnNames (some column)⟩ := by
  -- The clause reads what has just been registered, whatever the copy held before.
  have hvalue : (r.advance clause).value =
      ⟨r.catalog.insert Catalog.selection e.table, f e.table, r.evaluation.diagnostics ++
        missing Catalog.selection e.table.columnNames (some column)⟩ := by
    rw [Register.advance, Logged.value_bind, hclause, h.table]
    rfl
  rw [hvalue]
  refine ⟨h.config, rfl, ?_, fun table name hmem => ?_⟩
  · rw [List.map_append, h.diagnostics, Diagnostic.map_retarget_missing]
  · rcases List.mem_append.1 hmem with hmem | hmem
    · exact h.fromSelection table name hmem
    · obtain ⟨_, _, heq⟩ := List.mem_map.1 hmem
      exact (Diagnostic.missingColumn.inj heq).1.symm

theorem Simulates.filter {q : Query} (h : r.Simulates q.source catalog e) :
    (r.advance? (q.condition?.map .filter)).value.Simulates q.source catalog
      (q.filterStage catalog e).value := by
  rw [Query.value_filterStage, Query.selected]
  cases q.condition? with
  | none => simpa [advance?, missing] using h
  | some c =>
    have hclause : ∀ (catalog : Catalog) t,
        ((Clause.filter c).evaluate (catalog.insert Catalog.selection t)).value =
          ⟨c.select t, missing Catalog.selection t.columnNames (some c.column)⟩ := by
      intro catalog t
      rw [Clause.evaluate, Condition.value_filterSelection, Catalog.selected_insert_selection,
        Catalog.missingSelected_insert_selection]
    exact h.advance hclause

theorem Simulates.sorting {q : Query} (h : r.Simulates q.source catalog e) :
    (r.advance? (q.direction?.map .sorting)).value.Simulates q.source catalog
      (q.sortStage catalog e).value := by
  rw [Query.value_sortStage, Query.arranged]
  cases q.direction? with
  | none => simpa [advance?, missing] using h
  | some d =>
    have hclause : ∀ (catalog : Catalog) t,
        ((Clause.sorting d).evaluate (catalog.insert Catalog.selection t)).value =
          ⟨d.arrange t, missing Catalog.selection t.columnNames (some d.column)⟩ := by
      intro catalog t
      rw [Clause.evaluate, Direction.value_sortSelection, Catalog.selected_insert_selection,
        Catalog.missingSelected_insert_selection]
    exact h.advance hclause

end Register

/-! ### Whole queries -/

namespace Query

/-- **By way of the selection a query comes to the same,** on every catalog: to the same table, and
to the same diagnostics once the table that it names takes the place of the selection in them. These
are the diagnostics of missing columns, which all name the selection. -/
theorem evaluate_eq_byRegister (q : Query) (catalog : Catalog) :
    let threaded := (q.evaluate catalog).value
    let registered := (q.evaluateByRegister catalog).value
    registered.table = threaded.table ∧
    registered.diagnostics.map (Diagnostic.retarget q.source) = threaded.diagnostics ∧
    ∀ table column, .missingColumn table column ∈ registered.diagnostics →
      table = Catalog.selection := by
  intro threaded registered
  let source := (catalog.fetch q.source).value
  let filtered := (Register.advance? ⟨catalog, source⟩ (q.condition?.map .filter)).value
  let sorted := (filtered.advance? (q.direction?.map .sorting)).value
  let e := (q.sortStage catalog (q.filterStage catalog source).value).value
  have h : sorted.Simulates q.source catalog e :=
    (Register.simulates_fetch q.source catalog).filter.sorting
  have hregistered : registered = sorted.evaluation.followedBy
      (q.columns.project sorted.catalog q.source sorted.evaluation.table).value := rfl
  have hthreaded : threaded =
      e.followedBy (q.columns.project catalog q.source e.table).value := rfl
  rw [hregistered, hthreaded, Projection.value_project, Projection.value_project, h.config, h.table]
  refine ⟨rfl, ?_, fun table column hmem => ?_⟩
  · change (sorted.evaluation.diagnostics ++ _).map _ = e.diagnostics ++ _
    rw [List.map_append, h.diagnostics, Diagnostic.map_retarget_unknown]
  · rcases List.mem_append.1 hmem with hmem | hmem
    · exact h.fromSelection table column hmem
    · exact absurd hmem (Diagnostic.missingColumn_not_mem_unknown table column _ _ _ _)

end Query
end TableQuery
