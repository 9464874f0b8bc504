/-
# What a query reports and whether it fails

What a query misses is a list of names that are not there, in a fixed order, so it takes the names
and the configuration to tell it, and no row. The configuration has no part in the table. It decides
whether something missed is fatal, and then the first such diagnostic is the error.

A laxer configuration reports no more and takes less for fatal, so what succeeds under a stricter
one succeeds under it, and with the same table (`Query.run_of_isLaxer`).
-/

import TableQuery.Proofs.Query.Stages

namespace TableQuery

/-- Whether a diagnostic makes a query fail: what is missing does under a configuration that is
strict about it, and an unknown projection always. -/
def Diagnostic.Fatal (config : Config) : Diagnostic → Prop
  | missingTable _ => config.onMissing = .strict
  | missingColumn _ _ => config.onMissing = .strict
  | unknownProjection _ _ => True

theorem Diagnostic.isFatal_iff (config : Config) (d : Diagnostic) :
    d.isFatal config = true ↔ d.Fatal config := by
  cases d with
  | missingTable name => exact beq_iff_eq
  | missingColumn table column => exact beq_iff_eq
  | unknownProjection table column => exact iff_of_true rfl trivial

/-- Whether a configuration is lenient about all that another one is lenient about. -/
structure Config.IsLaxer (config stricter : Config) : Prop where
  onMissing : stricter.onMissing = .lenient → config.onMissing = .lenient
  onUnknownProjection :
    stricter.onUnknownProjection = .lenient → config.onUnknownProjection = .lenient

theorem Strictness.eq_strict_of_imp {a b : Strictness} (h : b = .lenient → a = .lenient)
    (ha : a = .strict) : b = .strict := by
  cases b with
  | lenient => exact absurd ((h rfl).symm.trans ha) (by decide)
  | strict => rfl

/-! ### The first fatal diagnostic -/

namespace Evaluation

/-- **An evaluation fails with its first fatal diagnostic.** -/
theorem result_eq_error_iff (config : Config) (e : Evaluation) (error : QueryError) :
    e.result config = .error error ↔
      ∃ before d after, e.diagnostics = before ++ d :: after ∧
        (∀ b ∈ before, ¬b.Fatal config) ∧ d.Fatal config ∧ error = d.toError := by
  rw [result]
  constructor
  · intro h
    split at h
    · rename_i d hd
      obtain ⟨hfatal, before, after, hsplit, hbefore⟩ := List.find?_eq_some_iff_append.1 hd
      refine ⟨before, d, after, hsplit, fun b hb => ?_, (d.isFatal_iff config).1 hfatal,
        (Except.error.inj h).symm⟩
      have hb := hbefore b hb
      rwa [Bool.not_eq_true', Bool.eq_false_iff, ne_eq, b.isFatal_iff] at hb
    · cases h
  · rintro ⟨before, d, after, hsplit, hbefore, hfatal, rfl⟩
    have hd : e.diagnostics.find? (·.isFatal config) = some d := by
      refine List.find?_eq_some_iff_append.2
        ⟨(d.isFatal_iff config).2 hfatal, before, after, hsplit, fun b hb => ?_⟩
      rw [Bool.not_eq_true', Bool.eq_false_iff, ne_eq, b.isFatal_iff]
      exact hbefore b hb
    rw [hd]

/-- **An evaluation succeeds** with its table if no diagnostic is fatal. -/
theorem result_eq_ok_iff (config : Config) (e : Evaluation) (t : Table) :
    e.result config = .ok t ↔ (∀ d ∈ e.diagnostics, ¬d.Fatal config) ∧ t = e.table := by
  have hnone : e.diagnostics.find? (·.isFatal config) = none ↔
      ∀ d ∈ e.diagnostics, ¬d.Fatal config := by
    simp only [List.find?_eq_none, Diagnostic.isFatal_iff]
  rw [result, ← hnone]
  cases e.diagnostics.find? (·.isFatal config) with
  | none =>
    constructor
    · intro h
      exact ⟨rfl, (Except.ok.inj h).symm⟩
    · rintro ⟨-, rfl⟩
      rfl
  | some d =>
    constructor
    · intro h
      cases h
    · rintro ⟨h, -⟩
      cases h

end Evaluation

/-! ### Laxer configurations -/

section Laxer

variable {config stricter : Config}

theorem Diagnostic.Fatal.of_isLaxer (h : config.IsLaxer stricter) {d : Diagnostic}
    (hd : d.Fatal config) : d.Fatal stricter := by
  cases d with
  | missingTable name => exact Strictness.eq_strict_of_imp h.onMissing hd
  | missingColumn table column => exact Strictness.eq_strict_of_imp h.onMissing hd
  | unknownProjection table column => trivial

/-- A laxer configuration reports no more. -/
theorem Query.misses_subset (h : config.IsLaxer stricter) (q : Query) (registered : Bool)
    (names : List String) :
    q.misses config registered names ⊆ q.misses stricter registered names := by
  have hunknown : q.columns.unknown config q.source names ⊆
      q.columns.unknown stricter q.source names := by
    rw [Projection.unknown]
    split
    · rename_i hstrict
      rw [Projection.unknown, if_pos
        ⟨Strictness.eq_strict_of_imp h.onUnknownProjection hstrict.1, hstrict.2⟩]
      exact List.Subset.refl _
    · exact List.nil_subset _
  exact List.append_subset.2
    ⟨List.subset_append_left _ _, List.Subset.trans hunknown (List.subset_append_right _ _)⟩

end Laxer

/-! ### Queries -/

namespace Query

theorem value_run (q : Query) (catalog : Catalog) :
    (q.run catalog).value = (q.evaluate catalog).value.result catalog.config := rfl

theorem table_evaluate_config (q : Query) (catalog : Catalog) (config : Config) :
    (q.evaluate { catalog with config := config }).value.table =
      (q.evaluate catalog).value.table := by
  rw [value_evaluate, value_evaluate]
  rfl

/-- Nothing is fatal under a configuration that is lenient about everything. -/
theorem not_fatal_of_lenient (q : Query) {config : Config} (hmissing : config.onMissing = .lenient)
    (hunknown : config.onUnknownProjection = .lenient) {registered : Bool} {names : List String} :
    ∀ d ∈ q.misses config registered names, ¬d.Fatal config := by
  intro d hd hfatal
  cases d with
  | missingTable name => exact absurd (hmissing.symm.trans hfatal) (by decide)
  | missingColumn table column => exact absurd (hmissing.symm.trans hfatal) (by decide)
  | unknownProjection table column =>
    have hnone : q.columns.unknown config q.source names = [] := by
      rw [Projection.unknown, if_neg]
      rintro ⟨hstrict, -⟩
      exact absurd (hunknown.symm.trans hstrict) (by decide)
    rw [misses, hnone, List.append_nil] at hd
    split at hd <;> simp [missing] at hd

/-- **What succeeds under a stricter configuration succeeds under a laxer one,** with the same
table. -/
theorem run_of_isLaxer (q : Query) (catalog : Catalog) {stricter : Config} {t : Table}
    (hlaxer : catalog.config.IsLaxer stricter)
    (h : (q.run { catalog with config := stricter }).value = .ok t) :
    (q.run catalog).value = .ok t := by
  rw [value_run, Evaluation.result_eq_ok_iff] at h ⊢
  rw [table_evaluate_config] at h
  refine ⟨fun d hd hfatal => ?_, h.2⟩
  -- What is fatal here is reported under the stricter configuration as well, and fatal there.
  rw [value_evaluate] at hd
  refine h.1 d ?_ (hfatal.of_isLaxer hlaxer)
  rw [value_evaluate]
  exact misses_subset hlaxer q _ _ hd

/-- **What a query reports, and whether and how it fails, is told by names and the configuration.**
The diagnostics are what it misses. No configuration changes the table, and the query gives it
unless a diagnostic is fatal; then it fails with the first of these. So it never fails where all is
lenient, and what succeeds under a configuration succeeds under a laxer one. -/
theorem outcome_of_names (q : Query) (catalog : Catalog) :
    let evaluation := (q.evaluate catalog).value
    evaluation.diagnostics = q.misses catalog.config (catalog.contains q.source)
      (q.sourceTable catalog).columnNames ∧
    (∀ config, (q.evaluate { catalog with config := config }).value.table = evaluation.table) ∧
    (∀ error, (q.run catalog).value = .error error ↔
      ∃ before d after, evaluation.diagnostics = before ++ d :: after ∧
        (∀ b ∈ before, ¬b.Fatal catalog.config) ∧ d.Fatal catalog.config ∧ error = d.toError) ∧
    (∀ t, (q.run catalog).value = .ok t ↔
      (∀ d ∈ evaluation.diagnostics, ¬d.Fatal catalog.config) ∧ t = evaluation.table) ∧
    (catalog.config.onMissing = .lenient → catalog.config.onUnknownProjection = .lenient →
      (q.run catalog).value = .ok evaluation.table) ∧
    ∀ stricter t, catalog.config.IsLaxer stricter →
      (q.run { catalog with config := stricter }).value = .ok t →
        (q.run catalog).value = .ok t := by
  intro evaluation
  have hdiagnostics : evaluation.diagnostics = q.misses catalog.config (catalog.contains q.source)
      (q.sourceTable catalog).columnNames :=
    congrArg Evaluation.diagnostics (q.value_evaluate catalog)
  refine ⟨hdiagnostics, q.table_evaluate_config catalog,
    Evaluation.result_eq_error_iff catalog.config evaluation,
    Evaluation.result_eq_ok_iff catalog.config evaluation, fun hmissing hunknown => ?_,
    fun _ _ => q.run_of_isLaxer catalog⟩
  rw [value_run, Evaluation.result_eq_ok_iff]
  refine ⟨?_, rfl⟩
  rw [show (q.evaluate catalog).value.diagnostics = _ from hdiagnostics]
  exact q.not_fatal_of_lenient hmissing hunknown

end Query
end TableQuery
