/-
# Evaluation sees no more than equality

Evaluation cannot tell equal inputs apart, although equal floats may differ in their bits and equal
tables in their indexes. The flags of a condition and the order of a direction are the same on equal
tables, not only equal, since they come from comparisons, and these see contents alone. So equal
queries make equal tables of equal tables. What they miss is told by names and the configuration,
and so is whether they fail.
-/

import TableQuery.Proofs.Query.Outcome
import TableQuery.Proofs.Table.Congruence
import TableQuery.Proofs.Value.Congruence

namespace TableQuery

variable {t u : Table}

/-! ### Conditions -/

namespace Condition

/-- What equality sees of a condition. -/
def content (c : Condition) : String × Comparison × Value.Content :=
  (c.column, c.comparison, c.threshold.content)

theorem beq_iff (c d : Condition) : (c == d) = true ↔ c.content = d.content := by
  change (c.column == d.column && c.comparison == d.comparison && c.threshold == d.threshold)
    = true ↔ _
  rw [Bool.and_eq_true, Bool.and_eq_true, beq_iff_eq, beq_iff_eq, Value.beq_iff, and_assoc,
    content, content, Prod.mk.injEq, Prod.mk.injEq]

variable {c d : Condition}

/-- **Equal conditions set the same flags** on equal tables. -/
theorem flags_congr (hc : c.content = d.content) (h : t.contents = u.contents) :
    c.flags t = d.flags u := by
  obtain ⟨hcolumn, hrest⟩ := Prod.mk.inj hc
  obtain ⟨hcomparison, hthreshold⟩ := Prod.mk.inj hrest
  have htest : ∀ {a b : Value}, a.content = b.content → c.test a = d.test b := by
    intro a b hab
    rw [test, test, hcomparison]
    exact d.comparison.test_congr hab hthreshold
  rw [flags, flags, ← hcolumn]
  obtain ⟨ht, hu⟩ | ⟨v, w, ht, hu, hvw⟩ := Table.column?_congr h c.column
  · rw [ht, hu]
  · -- The cells may differ, so their flags are compared as images of their contents.
    have hsame : d.test = c.test := funext fun a => (htest rfl).symm
    rw [ht, hu, hsame]
    exact map_eq_map_of_factorsThrough (fun a b hab => (htest hab).trans (htest rfl).symm) hvw

theorem contents_select_congr (hc : c.content = d.content) (h : t.contents = u.contents) :
    (c.select t).contents = (d.select u).contents := by
  rw [select, select, flags_congr hc h]
  exact Table.contents_filterRows_congr h _

end Condition

/-! ### Directions -/

namespace Direction

/-- Positions are told by keys, so cells of equal keys give the same ones. -/
theorem ascendingPositions_eq (cells : List Value) :
    ascendingPositions cells = ((cells.map Value.sortKey).zipIdx.mergeSort fun a b =>
      (Value.compareSortKeys a.1 b.1).isLE).map (·.2) := by
  have hsort : ∀ a b : Value × ℕ, (a.1.sortCompare b.1).isLE =
      (Value.compareSortKeys a.1.sortKey b.1.sortKey).isLE := by
    intro a b
    rw [Value.sortCompare_eq_compareSortKeys]
  -- Sorting looks at keys alone, so these may take the place of the cells before it.
  rw [ascendingPositions, List.zipIdx_map, ← List.map_mergeSort fun a _ b _ => hsort a b,
    List.map_map]
  rfl

theorem positions_congr (d : Direction) {v w : List Value}
    (h : v.map Value.content = w.map Value.content) : d.positions v = d.positions w := by
  have hkeys : v.map Value.sortKey = w.map Value.sortKey :=
    map_eq_map_of_factorsThrough (fun _ _ => Value.sortKey_congr) h
  rw [positions, positions, ascendingPositions_eq, hkeys, ← ascendingPositions_eq]

/-- **A direction puts equal tables in one order.** -/
theorem rowOrder_congr (d : Direction) (h : t.contents = u.contents) :
    d.rowOrder t = d.rowOrder u := by
  rw [rowOrder, rowOrder]
  obtain ⟨ht, hu⟩ | ⟨v, w, ht, hu, hvw⟩ := Table.column?_congr h d.column
  · rw [ht, hu, Table.rowCount_congr h]
  · rw [ht, hu]
    exact d.positions_congr hvw

theorem contents_arrange_congr (d : Direction) (h : t.contents = u.contents) :
    (d.arrange t).contents = (d.arrange u).contents := by
  rw [arrange, arrange, d.rowOrder_congr h]
  exact Table.contents_reorderRows_congr h _

end Direction

/-! ### Projections -/

theorem Projection.contents_restrict_congr (p : Projection) (h : t.contents = u.contents) :
    (p.restrict t).contents = (p.restrict u).contents := by
  rw [restrict, restrict]
  split
  · exact h
  · exact Table.contents_filterColumns_congr h _

/-! ### Catalogs -/

namespace Catalog

/-- Catalogs of one configuration that hold equal tables under the same names: under a name both
hold one, and these are equal, or neither holds one. -/
structure Alike (catalog catalog' : Catalog) : Prop where
  config : catalog.config = catalog'.config
  tables : ∀ name, (catalog.get? name == catalog'.get? name) = true

variable {catalog catalog' : Catalog}

theorem Alike.map_contents (h : catalog.Alike catalog') (name : String) :
    (catalog.get? name).map Table.contents = (catalog'.get? name).map Table.contents :=
  (option_beq_iff Table.beq_iff _ _).1 (h.tables name)

theorem Alike.contains (h : catalog.Alike catalog') (name : String) :
    catalog.contains name = catalog'.contains name := by
  rw [contains_eq_isSome_get?, ← Option.isSome_map, h.map_contents, Option.isSome_map,
    ← contains_eq_isSome_get?]

theorem Alike.contents_tableAt (h : catalog.Alike catalog') (name : String) :
    (catalog.tableAt name).contents = (catalog'.tableAt name).contents := by
  rw [tableAt, tableAt, ← Option.getD_map Table.contents, h.map_contents, Option.getD_map]

end Catalog

/-! ### Evaluations -/

namespace Evaluation

theorem beq_iff (e e' : Evaluation) :
    (e == e') = true ↔ (e.table == e'.table) = true ∧ e.diagnostics = e'.diagnostics := by
  change (e.table == e'.table && e.diagnostics == e'.diagnostics) = true ↔ _
  rw [Bool.and_eq_true, beq_iff_eq (a := e.diagnostics)]

/-- **Equal evaluations have equal results:** equal tables, or one error. -/
theorem result_congr {e e' : Evaluation} (config : Config) (h : (e == e') = true) :
    (∃ t u, e.result config = .ok t ∧ e'.result config = .ok u ∧ (t == u) = true) ∨
      ∃ error, e.result config = .error error ∧ e'.result config = .error error := by
  obtain ⟨htable, hdiagnostics⟩ := (beq_iff e e').1 h
  rw [result, result, hdiagnostics]
  cases e'.diagnostics.find? (·.isFatal config) with
  | none => exact .inl ⟨_, _, rfl, rfl, htable⟩
  | some d => exact .inr ⟨_, rfl, rfl⟩

end Evaluation

/-! ### Queries -/

namespace Query

/-- What equality sees of a query. -/
def content (q : Query) :
    Projection × String × Option (String × Comparison × Value.Content) × Option Direction :=
  (q.columns, q.source, q.condition?.map Condition.content, q.direction?)

theorem beq_iff (q r : Query) : (q == r) = true ↔ q.content = r.content := by
  change (q.columns == r.columns && q.source == r.source && q.condition? == r.condition? &&
    q.direction? == r.direction?) = true ↔ _
  rw [Bool.and_eq_true, Bool.and_eq_true, Bool.and_eq_true, option_beq_iff Condition.beq_iff,
    beq_iff_eq, beq_iff_eq, beq_iff_eq, and_assoc, and_assoc, content, content, Prod.mk.injEq,
    Prod.mk.injEq, Prod.mk.injEq]

variable {q r : Query}

theorem contents_arranged_congr (q : Query) (h : t.contents = u.contents) :
    (q.arranged t).contents = (q.arranged u).contents := by
  rw [arranged, arranged]
  cases q.direction? with
  | none => exact h
  | some d => exact d.contents_arrange_congr h

/-- **Equal queries make equal tables of equal tables.** -/
theorem contents_resultTable_congr (hq : q.content = r.content) (h : t.contents = u.contents) :
    (q.resultTable t).contents = (r.resultTable u).contents := by
  simp only [content, Prod.mk.injEq] at hq
  obtain ⟨hcolumns, -, hcondition, hdirection⟩ := hq
  have hselected : (q.selected t).contents = (r.selected u).contents := by
    rw [selected, selected]
    cases hc : q.condition? with
    | none =>
      rw [hc] at hcondition
      rw [Option.map_eq_none_iff.1 hcondition.symm]
      exact h
    | some c =>
      rw [hc] at hcondition
      obtain ⟨d, hd, hcontent⟩ := Option.map_eq_some_iff.1 hcondition.symm
      rw [hd]
      exact Condition.contents_select_congr hcontent.symm h
  have harranged : r.arranged (r.selected u) = q.arranged (r.selected u) := by
    rw [arranged, arranged, hdirection]
  rw [resultTable, resultTable, ← hcolumns, harranged]
  exact q.columns.contents_restrict_congr (q.contents_arranged_congr hselected)

/-- Equal queries miss the same. -/
theorem misses_congr (hq : q.content = r.content) : q.misses = r.misses := by
  simp only [content, Prod.mk.injEq] at hq
  obtain ⟨hcolumns, hsource, hcondition, hdirection⟩ := hq
  have hcolumn : q.condition?.map Condition.column = r.condition?.map Condition.column := by
    have h := congrArg (Option.map Prod.fst) hcondition
    rwa [Option.map_map, Option.map_map] at h
  funext config registered names
  rw [misses, misses, hcolumns, hsource, hcolumn, hdirection]

variable {catalog catalog' : Catalog}

theorem evaluate_congr (hcatalog : catalog.Alike catalog') (hq : (q == r) = true) :
    ((q.evaluate catalog).value == (r.evaluate catalog').value) = true := by
  have hcontent := (beq_iff q r).1 hq
  have hsource : q.source = r.source := (Prod.mk.inj (Prod.mk.inj hcontent).2).1
  have htable : (q.sourceTable catalog).contents = (r.sourceTable catalog').contents := by
    rw [sourceTable, sourceTable, ← hsource]
    exact hcatalog.contents_tableAt q.source
  rw [value_evaluate, value_evaluate, Evaluation.beq_iff, Table.beq_iff]
  refine ⟨contents_resultTable_congr hcontent htable, ?_⟩
  rw [misses_congr hcontent, hcatalog.config, hsource, hcatalog.contains,
    Table.columnNames_congr htable]

/-- **Evaluation respects equality.** Equality of cells is an equivalence that takes all NaNs for
one, and the two zeros. On catalogs that are alike, equal queries have equal evaluations, and then
they give equal tables or fail with one error. On equal tables, equal conditions give the very same
flags, and a direction the very same positions. -/
theorem evaluate_respects_beq :
    Equivalence (fun a b : Value => (a == b) = true) ∧
    (∀ x y : Binary64, x.isNaN = true → y.isNaN = true → (Value.float x == .float y) = true) ∧
    (Value.float .zero == .float (.ofMagnitude true 0)) = true ∧
    (∀ (catalog catalog' : Catalog) (q r : Query), catalog.Alike catalog' → (q == r) = true →
      ((q.evaluate catalog).value == (r.evaluate catalog').value) = true ∧
      ((∃ t u, (q.run catalog).value = .ok t ∧ (r.run catalog').value = .ok u ∧
          (t == u) = true) ∨
        ∃ error, (q.run catalog).value = .error error ∧
          (r.run catalog').value = .error error)) ∧
    (∀ (catalog catalog' : Catalog) (source : String) (c d : Condition) (t u : Table),
      (c == d) = true → (t == u) = true →
      (c.classify catalog source t).value = (d.classify catalog' source u).value) ∧
    ∀ (catalog catalog' : Catalog) (source : String) (d e : Direction) (t u : Table),
      (d == e) = true → (t == u) = true →
      (d.permutation catalog source t).value = (e.permutation catalog' source u).value := by
  refine ⟨⟨BEq.refl, BEq.symm, BEq.trans⟩, fun x y => Binary64.same_of_isNaN, ?_, ?_, ?_, ?_⟩
  · decide
  · intro catalog catalog' q r hcatalog hq
    have hevaluate := evaluate_congr hcatalog hq
    rw [value_run, value_run, hcatalog.config]
    exact ⟨hevaluate, Evaluation.result_congr _ hevaluate⟩
  · intro catalog catalog' source c d t u hcd htu
    have hcontent := (Condition.beq_iff c d).1 hcd
    have htable := (Table.beq_iff t u).1 htu
    have hcolumn : c.column = d.column := (Prod.mk.inj hcontent).1
    rw [Condition.value_classify, Condition.value_classify, Condition.flags_congr hcontent htable,
      Table.columnNames_congr htable, hcolumn]
  · intro catalog catalog' source d e t u hde htu
    have htable := (Table.beq_iff t u).1 htu
    rw [beq_iff_eq.1 hde, Direction.value_permutation, Direction.value_permutation,
      e.rowOrder_congr htable, Table.columnNames_congr htable]

/-- Two readings, of which one failed. -/
def readings (failed zero : Binary64) : Table :=
  .ofColumns [⟨"reading", [.float failed, .float zero]⟩]

/-- The readings that are zero, in descending order. -/
def zeroReadings (zero : Binary64) : Query where
  columns := .all
  source := "readings"
  condition? := some ⟨"reading", .equal, .float zero⟩
  direction? := some ⟨"reading", .descending⟩

/-- A query for one zero finds the other, whatever NaN stands for the reading that failed. -/
theorem evaluate_respects_beq_readings :
    let negativeZero := Binary64.ofMagnitude true 0
    let otherNaN := Binary64.ofMagnitude true (Binary64.infinityBits + 1)
    let catalog := (Catalog.empty {}).insert "readings" (readings .nan .zero)
    let catalog' := (Catalog.empty {}).insert "readings" (readings otherNaN negativeZero)
    (catalog.Alike catalog' ∧ (zeroReadings .zero == zeroReadings negativeZero) = true) ∧
    (((zeroReadings .zero).evaluate catalog).value ==
      ((zeroReadings negativeZero).evaluate catalog').value) = true := by
  intro negativeZero otherNaN catalog catalog'
  have htables : (readings .nan .zero == readings otherNaN negativeZero) = true := by
    have hcontents : ∀ x y, (readings x y).contents =
        [("reading", [(Value.float x).content, (Value.float y).content])] := by
      intro x y
      have hcolumns : (readings x y).columns = _ :=
        Table.columns_ofColumns (List.nodup_singleton "reading")
      rw [Table.contents, Table.entries, hcolumns]
      rfl
    have hfailed : (Value.float .nan).content = (Value.float otherNaN).content :=
      (Value.beq_iff _ _).1 (by decide)
    have hzero : (Value.float .zero).content = (Value.float negativeZero).content :=
      (Value.beq_iff _ _).1 (by decide)
    rw [Table.beq_iff, hcontents, hcontents, hfailed, hzero]
  have halike : catalog.Alike catalog' := by
    refine ⟨rfl, fun name => ?_⟩
    rw [Catalog.get?_insert, Catalog.get?_insert, Catalog.get?_empty]
    split
    · exact htables
    · rfl
  have hquery : (zeroReadings .zero == zeroReadings negativeZero) = true := by decide
  exact ⟨⟨halike, hquery⟩,
    (evaluate_respects_beq.2.2.2.1 catalog catalog' _ _ halike hquery).1⟩

end Query
end TableQuery
