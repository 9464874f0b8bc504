/-
# Equal tables stay equal

What equality sees of a table, its contents, tells the names of its columns, the number of its rows
and the contents under every name. Filtering, reordering and leaving columns out move cells without
looking at them, so what equality sees of the outcome is told by what it sees of the table.
-/

import Mathlib.Data.List.Basic
import TableQuery.Proofs.Table.Entries
import TableQuery.Table.Rows

namespace TableQuery

/-- Lists that `f` cannot tell apart are not told apart by what depends on `f`. -/
theorem map_eq_map_of_factorsThrough {α β γ : Type} [Nonempty γ] {f : α → β} {g : α → γ}
    (hg : g.FactorsThrough f) {l l' : List α} (h : l.map f = l'.map f) : l.map g = l'.map g := by
  obtain ⟨e, rfl⟩ := (Function.factorsThrough_iff g).1 hg
  rw [← List.map_map, h, List.map_map]

namespace Table

variable {t u : Table}

/-! ### What contents tell -/

theorem columnNames_congr (h : t.contents = u.contents) : t.columnNames = u.columnNames := by
  have hnames : ∀ t : Table, t.columnNames = t.contents.map Prod.fst := by
    intro t
    rw [← map_fst_entries, contents, List.map_map]
    rfl
  rw [hnames, h, ← hnames]

theorem rowCount_congr (h : t.contents = u.contents) : t.rowCount = u.rowCount := by
  have hcount : ∀ t : Table, t.rowCount = (t.contents.head?.map fun e => e.2.length).getD 0 := by
    intro t
    rw [rowCount, contents, entries, List.map_map, List.head?_map, Option.map_map,
      List.head?_eq_getElem?, Array.getElem?_toList]
    congr 2
    funext c
    exact (List.length_map _).symm
  rw [hcount, h, ← hcount]

/-- Under a name both have a column, with equal cells, or neither has one. -/
theorem column?_congr (h : t.contents = u.contents) (name : String) :
    (t.column? name = none ∧ u.column? name = none) ∨
      ∃ v w, t.column? name = some v ∧ u.column? name = some w ∧
        v.map Value.content = w.map Value.content := by
  have hcells : (t.column? name).map (List.map Value.content) =
      (u.column? name).map (List.map Value.content) := by
    rw [column?_eq_lookup, column?_eq_lookup, ← lookup_map_snd, ← lookup_map_snd]
    exact congrArg (List.lookup name) h
  cases ht : t.column? name with
  | none =>
    rw [ht] at hcells
    exact .inl ⟨rfl, Option.map_eq_none_iff.1 hcells.symm⟩
  | some v =>
    rw [ht] at hcells
    obtain ⟨w, hu, hw⟩ := Option.map_eq_some_iff.1 hcells.symm
    exact .inr ⟨v, w, rfl, hu, hw.symm⟩

/-! ### What keeps contents equal -/

/-- A change of cells that keeps equal columns equal keeps equal tables equal. -/
theorem contents_mapColumns_congr {f : List Value → List Value}
    (hf : ∀ v w : List Value, v.map Value.content = w.map Value.content →
      (f v).map Value.content = (f w).map Value.content) (h : t.contents = u.contents) :
    (t.mapColumns f).contents = (u.mapColumns f).contents := by
  rw [contents, contents, entries_mapColumns, entries_mapColumns, List.map_map, List.map_map]
  refine map_eq_map_of_factorsThrough (fun e e' he => ?_) h
  obtain ⟨hname, hcells⟩ := Prod.mk.inj he
  exact Prod.ext hname (hf _ _ hcells)

theorem contents_filterRows_congr (h : t.contents = u.contents) (flags : List Bool) :
    (t.filterRows flags).contents = (u.filterRows flags).contents := by
  have hkeep : ∀ values, (keepFlagged flags values).map Value.content =
      (((values.map Value.content).zip flags).filter (·.2)).map (·.1) := by
    intro values
    rw [keepFlagged, List.zip_map_left, List.filter_map, List.map_map, List.map_map]
    rfl
  exact contents_mapColumns_congr (fun v w hvw => by rw [hkeep, hvw, ← hkeep]) h

theorem contents_reorderRows_congr (h : t.contents = u.contents) (order : List Nat) :
    (t.reorderRows order).contents = (u.reorderRows order).contents := by
  have horder : ∀ values, (cellsInOrder order values).map Value.content =
      order.map fun i => (values.map Value.content)[i]?.getD (Value.content .null) := by
    intro values
    rw [cellsInOrder, List.map_map]
    refine List.map_congr_left fun i _ => ?_
    rw [Function.comp_apply, List.getElem?_toArray, List.getElem?_map, Option.getD_map]
  exact contents_mapColumns_congr (fun v w hvw => by rw [horder, hvw, ← horder]) h

theorem contents_filterColumns_congr (h : t.contents = u.contents) (keep : String → Bool) :
    (t.filterColumns keep).contents = (u.filterColumns keep).contents := by
  have hkeep : ∀ t : Table,
      (t.filterColumns keep).contents = t.contents.filter fun e => keep e.1 := by
    intro t
    rw [contents, entries_filterColumns, contents, List.filter_map]
    rfl
  rw [hkeep, h, ← hkeep]

end Table
end TableQuery
