/-
# Projecting twice, and projecting first

A projection keeps columns as they are and where they are (`Projection.columns_restrict`). What two
of them keep is what both keep, so their order has no say, nor has the order of their lists.

Filtering and sorting change each column for itself, by the cells of one column. If a projection
keeps that one, it does not matter whether it comes before or after (`columns_restrict_select`,
`columns_restrict_arrange`). A direction whose column is missing counts the rows of the first
column, which may be another one after projecting; on a valid table all have the same length.
-/

import TableQuery.Proofs.Direction.Successive
import TableQuery.Proofs.Query.Meaning

namespace TableQuery

variable {t u : Table}

/-- Columns with distinct names make one table. -/
theorem Table.filterColumns_eq_of_columns_eq {keep keep' : String → Bool}
    (h : (t.filterColumns keep).columns = (u.filterColumns keep').columns) :
    t.filterColumns keep = u.filterColumns keep' := by
  simp only [columns_filterColumns] at h
  simp only [filterColumns, h]

namespace Projection

variable {p : Projection}

theorem keeps_of_mem {name : String} (h : wildcard ∈ p.names ∨ name ∈ p.names) :
    p.keeps name = true := by
  rw [keeps, Bool.or_eq_true, isWildcard, contains, List.contains_iff_mem, List.contains_iff_mem]
  exact h

theorem column?_restrict {name : String} (hkeep : p.keeps name = true) (t : Table) :
    (p.restrict t).column? name = t.column? name := by
  rw [restrict]
  cases hw : p.isWildcard with
  | true => rw [if_pos rfl]
  | false =>
    rw [keeps_of_not_isWildcard hw] at hkeep
    rw [if_neg Bool.false_ne_true, Table.column?_filterColumns hkeep]

theorem isWildcard_of_not_mem (h : wildcard ∉ p.names) : p.isWildcard = false := by
  rw [isWildcard, Bool.eq_false_iff, ne_eq, List.contains_iff_mem]
  exact h

/-- Without an asterisk those names are kept that are listed, -/
theorem keeps_eq_decide (hp : wildcard ∉ p.names) (name : String) :
    p.keeps name = decide (name ∈ p.names) := by
  rw [keeps_of_not_isWildcard (isWildcard_of_not_mem hp), contains, Bool.eq_iff_iff,
    List.contains_iff_mem, decide_eq_true_iff]

/-- and the table is made anew of their columns. -/
theorem restrict_eq_filterColumns (hp : wildcard ∉ p.names) (t : Table) :
    p.restrict t = t.filterColumns p.contains := by
  rw [restrict, isWildcard_of_not_mem hp, if_neg Bool.false_ne_true]

/-- Tables that projections make of the same columns are the same. -/
theorem restrict_eq_of_columns_eq {p' : Projection} (hp : wildcard ∉ p.names)
    (hp' : wildcard ∉ p'.names) (h : (p.restrict t).columns = (p'.restrict u).columns) :
    p.restrict t = p'.restrict u := by
  rw [restrict_eq_filterColumns hp, restrict_eq_filterColumns hp'] at h ⊢
  exact Table.filterColumns_eq_of_columns_eq h

/-- **A projection keeps columns as they are,** in the order of the table. -/
theorem columns_restrict (p : Projection) (t : Table) :
    (p.restrict t).columns = t.columns.filter fun c => p.keeps c.name := by
  rw [restrict]
  cases hw : p.isWildcard with
  | true =>
    rw [if_pos rfl]
    exact (Array.filter_eq_self.2 fun c _ => keeps_of_isWildcard hw c.name).symm
  | false => rw [if_neg Bool.false_ne_true, keeps_of_not_isWildcard hw, Table.columns_filterColumns]

/-- **Of two projections those columns are left that both keep.** -/
theorem columns_restrict_restrict (p p' : Projection) (t : Table) :
    (p'.restrict (p.restrict t)).columns =
      t.columns.filter fun c => p.keeps c.name && p'.keeps c.name := by
  rw [columns_restrict, columns_restrict, Array.filter_filter]
  simp only [Bool.and_comm]

/-! ### Before and after filtering -/

theorem flags_restrict {c : Condition} (hkeep : p.keeps c.column = true) (t : Table) :
    c.flags (p.restrict t) = c.flags t := by
  rw [Condition.flags, Condition.flags, column?_restrict hkeep]

/-- **Projecting may come before filtering,** on any table. -/
theorem columns_restrict_select {c : Condition} (hkeep : p.keeps c.column = true) (t : Table) :
    (p.restrict (c.select t)).columns = (c.select (p.restrict t)).columns := by
  rw [columns_restrict, Condition.select, Condition.select, Table.filterRows, Table.filterRows,
    Table.columns_mapColumns, Table.columns_mapColumns, flags_restrict hkeep, columns_restrict,
    Array.filter_map]
  rfl

/-! ### Before and after sorting -/

/-- Gathering leaves names alone. -/
theorem filter_gathered (p : Projection) (t : Table) (order : List ℕ) :
    ((t.gathered order).filter fun c => p.keeps c.name) = (p.restrict t).gathered order := by
  rw [Table.gathered, Table.gathered, columns_restrict, Array.filter_map]
  rfl

/-- **Projecting may come before sorting** on a valid table. -/
theorem columns_restrict_arrange {d : Direction} (hkeep : p.keeps d.column = true)
    (ht : t.IsRectangular) :
    (p.restrict (d.arrange t)).columns = (d.arrange (p.restrict t)).columns := by
  rw [columns_restrict, Direction.columns_arrange, Direction.columns_arrange, filter_gathered]
  by_cases hnil : (p.restrict t).columns = #[]
  · simp [Table.gathered, hnil]
  · have hcount : (p.restrict t).rowCount = t.rowCount :=
      Table.rowCount_eq hnil fun c hc => by
        rw [columns_restrict] at hc
        exact ht c (Array.mem_filter.1 hc).1
    rw [Direction.rowOrder, Direction.rowOrder, column?_restrict hkeep, hcount]

/-- Tables of the same columns are sorted alike. -/
theorem columns_arrange_congr (d : Direction) (h : t.columns = u.columns) :
    (d.arrange t).columns = (d.arrange u).columns := by
  rw [Direction.columns_arrange, Direction.columns_arrange, Direction.rowOrder, Direction.rowOrder,
    Table.column?_eq_of_columns_eq h, Table.rowCount_eq_of_columns_eq h, Table.gathered,
    Table.gathered, h]

/-- **Projecting may come before filtering and sorting** on a valid table. -/
theorem columns_restrict_arrange_select {c : Condition} {d : Direction}
    (hc : p.keeps c.column = true) (hd : p.keeps d.column = true) (ht : t.IsRectangular) :
    (p.restrict (d.arrange (c.select t))).columns =
      (d.arrange (c.select (p.restrict t))).columns :=
  (columns_restrict_arrange hd (c.isRectangular_select ht)).trans
    (columns_arrange_congr d (columns_restrict_select hc t))

/-- **Projections keep what all of them list, and may come first.** Of two lists without an asterisk
those columns are left whose names are in both, as they are and in the order of the table. So the
projections commute, and doing one twice does no more than doing it once. Where unknown names are
reported, the second one reports each name on its list that is not both on the first list and in the
table, in the order of its list. On a valid table a projection that lists the columns of a condition
and of a direction may come before these or after them. -/
theorem project_algebra {p p' : Projection} (hp : wildcard ∉ p.names) (hp' : wildcard ∉ p'.names)
    (catalog : Catalog) (source : String) (t : Table) :
    let projected (p : Projection) (u : Table) := (p.project catalog source u).value.table
    (projected p' (projected p t)).columns =
      t.columns.filter (fun c => c.name ∈ p.names ∧ c.name ∈ p'.names) ∧
    projected p' (projected p t) = projected p (projected p' t) ∧
    projected p (projected p t) = projected p t ∧
    (catalog.config.onUnknownProjection = .strict →
      (p'.project catalog source (projected p t)).value.diagnostics =
        (p'.names.filter fun name => ¬(name ∈ p.names ∧ name ∈ t.columnNames)).map
          (.unknownProjection source)) ∧
    (t.validate = .ok () → ∀ (c : Condition) (d : Direction), c.column ∈ p.names →
      d.column ∈ p.names →
      let stages (u : Table) :=
        (d.sort catalog source (c.filter catalog source u).value.table).value.table
      (projected p (stages t)).columns = (stages (projected p t)).columns ∧
      (projected p (stages t) == stages (projected p t)) = true) := by
  intro projected
  have hprojected : ∀ (p : Projection) u, projected p u = p.restrict u := by
    intro p u
    simp only [projected, value_project]
  simp only [hprojected]
  refine ⟨?_, restrict_eq_of_columns_eq hp' hp ?_, restrict_eq_of_columns_eq hp hp ?_,
    fun hstrict => ?_, fun hvalid c d hc hd => ?_⟩
  · rw [columns_restrict_restrict]
    simp only [keeps_eq_decide hp, keeps_eq_decide hp', Bool.decide_and]
  · rw [columns_restrict_restrict, columns_restrict_restrict]
    simp only [Bool.and_comm]
  · rw [columns_restrict_restrict, columns_restrict]
    simp only [Bool.and_self]
  · rw [value_project, unknown, if_pos ⟨hstrict, isWildcard_of_not_mem hp'⟩, columnNames_restrict]
    simp only [List.mem_filter, keeps_eq_decide hp, decide_eq_true_eq, And.comm]
  · have hcolumns := columns_restrict_arrange_select (keeps_of_mem (.inr hc))
      (keeps_of_mem (.inr hd)) ((t.validate_eq_ok_iff).1 hvalid)
    simp only [Condition.value_filter, Direction.value_sort]
    refine ⟨hcolumns, ?_⟩
    rw [Table.beq_iff, Table.contents, Table.contents, Table.entries, Table.entries, hcolumns]

open Query in
/-- Only one column is on both lists, and the first column of the table is not. One of the names on
the first list is not in the table, so sorting by it leaves the rows as they are, wherever it
counts them. -/
theorem project_algebra_articles :
    let p : Projection := ⟨["stock", "shelf", "stock"]⟩
    let p' : Projection := ⟨["article", "stock", "size"]⟩
    let catalog := Catalog.empty .strict
    let projected (p : Projection) (u : Table) := (p.project catalog "articles" u).value.table
    let stages (u : Table) :=
      let filtered :=
        (Condition.filter ⟨"stock", .greater, .int 0⟩ catalog "articles" u).value.table
      (Direction.sort ⟨"shelf", .descending⟩ catalog "articles" filtered).value.table
    (wildcard ∉ p.names ∧ wildcard ∉ p'.names ∧ articles.validate = .ok ()) ∧
    (projected p' (projected p articles)).columns = #[⟨"stock", [.int 4, .null, .int 7]⟩] ∧
    (p'.project catalog "articles" (projected p articles)).value.diagnostics =
      [.unknownProjection "articles" "article", .unknownProjection "articles" "size"] ∧
    (projected p (stages articles)).columns = (stages (projected p articles)).columns := by
  intro p p' catalog projected stages
  have hp : wildcard ∉ p.names := by decide
  have hp' : wildcard ∉ p'.names := by decide
  obtain ⟨hboth, -, -, hunknown, hpushdown⟩ := project_algebra hp hp' catalog "articles" articles
  refine ⟨⟨hp, hp', validate_articles⟩, hboth.trans ?_, (hunknown rfl).trans ?_,
    (hpushdown validate_articles ⟨"stock", .greater, .int 0⟩ ⟨"shelf", .descending⟩ (by decide)
      (by decide)).1⟩
  · rw [columns_articles]
    rfl
  · rw [columnNames_articles]
    decide

end Projection
end TableQuery
