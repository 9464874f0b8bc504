/-
# Tables through their columns

Each operation on tables, read as an operation on the sequence of columns. Inserting replaces the
cells under a name that is there and appends a column under one that is not; erasing and keeping
drop columns and leave the others in place. Look-ups find the column that has the name. After this
the index need not be looked at again.
-/

import TableQuery.Table.Rows

namespace TableQuery
namespace Table

variable {t : Table} {name : String} {values : List Value}

/-! ### Look-ups -/

theorem contains_iff : t.contains name = true ↔ name ∈ t.columnNames := by
  rw [contains, Std.HashMap.contains_iff_mem, Std.HashMap.mem_iff_isSome_getElem?, columnNames,
    Option.isSome_iff_exists]
  constructor
  · rintro ⟨i, hi⟩
    obtain ⟨c, hc, rfl⟩ := Option.map_eq_some_iff.1 ((t.indexed name i).1 hi)
    exact List.mem_map.2 ⟨c, Array.mem_toList_iff.2 (Array.mem_of_getElem? hc), rfl⟩
  · intro h
    obtain ⟨c, hc, rfl⟩ := List.mem_map.1 h
    obtain ⟨i, hi⟩ := Array.mem_iff_getElem?.1 (Array.mem_toList_iff.1 hc)
    exact ⟨i, (t.indexed c.name i).2 (by rw [hi]; rfl)⟩

theorem columnNames_nodup : t.columnNames.Nodup := t.indexed.nodup

/-- Columns of one table that have one name are the same column. -/
theorem eq_of_name_eq {c d : Column} (hc : c ∈ t.columns) (hd : d ∈ t.columns)
    (h : c.name = d.name) : c = d := by
  obtain ⟨i, hi⟩ := Array.mem_iff_getElem?.1 hc
  obtain ⟨j, hj⟩ := Array.mem_iff_getElem?.1 hd
  have : i = j := t.indexed.unique (by rw [hi]; rfl) (by rw [hj, h]; rfl)
  subst this
  exact Option.some.inj (hi.symm.trans hj)

/-- **A look-up gives the cells of the column that has the name.** -/
theorem column?_eq_some_iff : t.column? name = some values ↔ ⟨name, values⟩ ∈ t.columns := by
  rw [column?, Option.bind_eq_some_iff]
  constructor
  · rintro ⟨i, hi, hv⟩
    obtain ⟨c, hc, rfl⟩ := Option.map_eq_some_iff.1 hv
    have hn := (t.indexed name i).1 hi
    rw [hc] at hn
    obtain rfl := Option.some.inj hn
    exact Array.mem_of_getElem? hc
  · intro h
    obtain ⟨i, hi⟩ := Array.mem_iff_getElem?.1 h
    exact ⟨i, (t.indexed name i).2 (by rw [hi]; rfl), by rw [hi]; rfl⟩

/-- The names of a table are those that a look-up finds. -/
theorem mem_columnNames_iff : name ∈ t.columnNames ↔ ∃ values, t.column? name = some values := by
  constructor
  · intro h
    obtain ⟨c, hc, rfl⟩ := List.mem_map.1 h
    exact ⟨c.values, column?_eq_some_iff.2 (Array.mem_toList_iff.1 hc)⟩
  · rintro ⟨values, h⟩
    exact List.mem_map.2 ⟨_, Array.mem_toList_iff.2 (column?_eq_some_iff.1 h), rfl⟩

theorem column?_eq_none_iff : t.column? name = none ↔ name ∉ t.columnNames := by
  rw [mem_columnNames_iff, not_exists, Option.eq_none_iff_forall_ne_some]

theorem mem_columnNames_of_column? (h : t.column? name = some values) : name ∈ t.columnNames :=
  mem_columnNames_iff.2 ⟨values, h⟩

theorem contains_eq_isSome_column? : t.contains name = (t.column? name).isSome := by
  rw [Bool.eq_iff_iff, contains_iff, Option.isSome_iff_ne_none, ne_eq, column?_eq_none_iff,
    Decidable.not_not]

/-- Looking a name up gives what stands beside it, if only one column has the name. -/
theorem lookup_map {α : Type} {columns : List Column} {d : Column} (g : Column → α)
    (hd : d ∈ columns) (hunique : ∀ c ∈ columns, c.name = d.name → c = d) :
    (columns.map fun c => (c.name, g c)).lookup d.name = some (g d) := by
  induction columns with
  | nil => cases hd
  | cons c columns ih =>
    rw [List.map_cons, List.lookup_cons]
    by_cases hc : d.name = c.name
    · rw [hunique c (List.mem_cons_self ..) hc.symm]
      simp
    · rw [beq_eq_false_iff_ne.2 hc]
      refine ih ((List.mem_cons.1 hd).resolve_left fun h => hc (h ▸ rfl)) ?_
      intro c' hc'
      exact hunique c' (List.mem_cons_of_mem c hc')

/-! ### Operations -/

@[simp] theorem columns_empty : empty.columns = #[] := rfl

@[simp] theorem columns_setValues (i : Nat) :
    (t.setValues i values).columns = t.columns.modify i fun c => { c with values := values } := rfl

@[simp] theorem columns_filterColumns (keep : String → Bool) :
    (t.filterColumns keep).columns = t.columns.filter fun c => keep c.name := rfl

/-- Inserting under a name that is there replaces the cells in place. -/
theorem columns_insert_of_contains (h : t.contains name = true) :
    (t.insert name values).columns =
      t.columns.map fun c => if c.name = name then { c with values := values } else c := by
  rw [contains_eq_isSome_column?, Option.isSome_iff_exists] at h
  obtain ⟨old, hold⟩ := h
  unfold insert
  split
  · rename_i i hi
    apply Array.ext_getElem?
    intro j
    have hn := (t.indexed name i).1 hi
    rw [columns_setValues, Array.getElem?_modify, Array.getElem?_map]
    split
    · rename_i hij
      subst hij
      obtain ⟨c, hc, hcn⟩ := Option.map_eq_some_iff.1 hn
      simp [hc, hcn]
    · rename_i hij
      cases hc : t.columns[j]? with
      | none => rfl
      | some c =>
        have : c.name ≠ name := by
          intro hcn
          exact hij (t.indexed.unique hn (by rw [hc, ← hcn]; rfl))
        simp [this]
  · rename_i hi
    rw [column?, hi] at hold
    simp at hold

/-- Inserting under a new name appends a column. -/
theorem columns_insert_of_not_contains (h : t.contains name = false) :
    (t.insert name values).columns = t.columns.push ⟨name, values⟩ := by
  unfold insert
  split
  · rename_i i hi
    rw [contains, Std.HashMap.contains_eq_isSome_getElem?, hi] at h
    simp at h
  · rfl

/-- Inserting columns with new and distinct names one after the other appends them all. -/
theorem columns_foldl_insert {columns : List Column} {t : Table}
    (h : (t.columnNames ++ columns.map Column.name).Nodup) :
    (columns.foldl (fun t c => t.insert c.name c.values) t).columns =
      t.columns ++ columns.toArray := by
  induction columns generalizing t with
  | nil => simp
  | cons c columns ih =>
    have hc : t.contains c.name = false := by
      rw [Bool.eq_false_iff, ne_eq, contains_iff]
      intro hmem
      exact (List.nodup_append.1 h).2.2 _ hmem _ (List.mem_cons_self ..) rfl
    have hcolumns : (t.insert c.name c.values).columns = t.columns.push c :=
      columns_insert_of_not_contains hc
    have hnames : (t.insert c.name c.values).columnNames = t.columnNames ++ [c.name] := by
      simp [columnNames, hcolumns]
    rw [List.foldl_cons, ih (by simpa [hnames] using h), hcolumns]
    simp

/-- **Columns with distinct names are the columns of their table.** -/
theorem columns_ofColumns {columns : List Column} (h : (columns.map Column.name).Nodup) :
    (ofColumns columns).columns = columns.toArray := by
  rw [ofColumns, columns_foldl_insert (by simpa [columnNames] using h)]
  simp

/-- Building a table anew from its columns, their cells changed, changes nothing else. -/
@[simp] theorem columns_mapColumns (f : List Value → List Value) :
    (t.mapColumns f).columns = t.columns.map fun c => { c with values := f c.values } := by
  rw [mapColumns, columns_ofColumns]
  · rw [← Array.toList_map, Array.toArray_toList]
  · simpa [columnNames, Function.comp_def] using columnNames_nodup (t := t)

@[simp] theorem columnNames_mapColumns (f : List Value → List Value) :
    (t.mapColumns f).columnNames = t.columnNames := by
  simp [columnNames, Function.comp_def]

/-- Erasing drops the column that has the name. -/
theorem toList_columns_erase :
    (t.erase name).columns.toList = t.columns.toList.filter fun c => c.name != name := by
  unfold erase
  split
  · rename_i i hi
    have hlt := t.indexed.lt_size hi
    have hn : t.columns[i].name = name := by
      have := (t.indexed name i).1 hi
      simpa [hlt] using this
    have hne : ∀ j (hj : j < t.columns.size), j ≠ i → (t.columns[j].name != name) = true := by
      intro j hj hji
      rw [bne_iff_ne]
      intro hjn
      exact hji (t.indexed.unique (by simp [hj, hjn]) ((t.indexed name i).1 hi))
    have hsplit : t.columns.toList =
        t.columns.toList.take i ++ t.columns[i] :: t.columns.toList.drop (i + 1) := by
      rw [← Array.getElem_toList, List.getElem_cons_drop, List.take_append_drop]
    rw [Array.toList_eraseIdx, List.eraseIdx_eq_take_drop_succ]
    conv => rhs; rw [hsplit]
    rw [List.filter_append, List.filter_cons_of_neg (by simp [hn]), List.filter_eq_self.2,
      List.filter_eq_self.2]
    · intro c hc
      obtain ⟨j, hj, rfl⟩ := List.getElem_of_mem hc
      rw [List.getElem_drop, Array.getElem_toList]
      exact hne _ _ (by omega)
    · intro c hc
      obtain ⟨j, hj, rfl⟩ := List.getElem_of_mem hc
      rw [List.getElem_take, Array.getElem_toList]
      rw [List.length_take] at hj
      exact hne _ _ (by omega)
  · rename_i hi
    rw [List.filter_eq_self.2]
    intro c hc
    have : t.contains name = false := by
      rw [contains, Std.HashMap.contains_eq_isSome_getElem?, hi]
      rfl
    rw [bne_iff_ne]
    rintro rfl
    have := contains_iff.2 (List.mem_map.2 ⟨c, hc, rfl⟩)
    simp_all

end Table
end TableQuery
