/-
# What a table says after any changes

A table is changed in five ways, and each changes its list of entries in the way that the change
has on lists (`Change.entries_apply`). So after any changes a table says what the list of entries
says after the same changes (`Change.entries_run`), although it finds the places of names through an
index that every change updates in its own way.
-/

import TableQuery.Proofs.Table.Entries

namespace TableQuery

/-- A change of a table. Building a table anew forgets the one that was there. Names are distinct,
so a test on names tells any choice of columns. -/
inductive Change : Type 1 where
  | insert (name : String) (values : List Value)
  | withColumn {α : Type} [ToValue α] (name : String) (elements : List α)
  | ofColumns (columns : List Column)
  | erase (name : String)
  | filterColumns (keep : String → Bool)

namespace Change

/-- The table after a change. -/
def apply : Change → Table → Table
  | insert name values, t => t.insert name values
  | withColumn name elements, t => t.withColumn name elements
  | ofColumns columns, _ => .ofColumns columns
  | erase name, t => t.erase name
  | filterColumns keep, t => t.filterColumns keep

/-- The entries after a change. -/
def applyEntries : Change → Entries → Entries
  | insert name values, entries => Entries.put name values entries
  | withColumn name elements, entries => Entries.put name (elements.map ToValue.toValue) entries
  | ofColumns columns, _ =>
    columns.foldl (fun entries c => Entries.put c.name c.values entries) []
  | erase name, entries => Entries.remove name entries
  | filterColumns keep, entries => entries.filter fun e => keep e.1

/-- The table after changes, from the one without columns. -/
def run (changes : List Change) : Table := changes.foldl (fun t change => change.apply t) .empty

/-- The entries after changes, from none. -/
def runEntries (changes : List Change) : Entries :=
  changes.foldl (fun entries change => change.applyEntries entries) []

/-- **A change of a table changes its entries.** -/
theorem entries_apply (change : Change) (t : Table) :
    (change.apply t).entries = change.applyEntries t.entries := by
  cases change with
  | insert name values => exact t.entries_insert name values
  | withColumn name elements => exact t.entries_insert name (elements.map ToValue.toValue)
  | ofColumns columns => exact Table.entries_ofColumns columns
  | erase name => exact t.entries_erase name
  | filterColumns keep => exact t.entries_filterColumns keep

/-- Changes of a table change its entries one after the other. -/
theorem entries_foldl_apply (changes : List Change) (t : Table) :
    (changes.foldl (fun t change => change.apply t) t).entries =
      changes.foldl (fun entries change => change.applyEntries entries) t.entries := by
  induction changes generalizing t with
  | nil => rfl
  | cons change changes ih => rw [List.foldl_cons, List.foldl_cons, ih, entries_apply]

/-- **After any changes a table says what the entries say.** -/
theorem entries_run (changes : List Change) : (run changes).entries = runEntries changes :=
  entries_foldl_apply changes .empty

end Change

namespace Table

variable {t : Table} {name : String}

/-- Inserting under a name that is there replaces the cells in place. -/
theorem entries_insert_of_mem (h : name ∈ t.columnNames) (values : List Value) :
    (t.insert name values).entries =
      t.entries.map fun e => if e.1 = name then (name, values) else e := by
  rw [← map_fst_entries] at h
  rw [entries_insert, Entries.put_of_mem t.map_fst_entries_nodup h]

/-- Inserting under a new name appends an entry. -/
theorem entries_insert_of_not_mem (h : name ∉ t.columnNames) (values : List Value) :
    (t.insert name values).entries = t.entries ++ [(name, values)] := by
  rw [← map_fst_entries] at h
  rw [entries_insert, Entries.put_of_not_mem h]

/-- Erasing drops the entry that has the name. -/
theorem entries_erase_eq_filter (t : Table) (name : String) :
    (t.erase name).entries = t.entries.filter fun e => e.1 != name := by
  rw [entries_erase, Entries.remove_eq_filter t.map_fst_entries_nodup]

/-- A name that is inserted again after it was erased comes last. -/
theorem entries_insert_erase (t : Table) (name : String) (values : List Value) :
    ((t.erase name).insert name values).entries =
      (t.entries.filter fun e => e.1 != name) ++ [(name, values)] := by
  have hnew : name ∉ (t.erase name).columnNames := by
    rw [← map_fst_entries, entries_erase_eq_filter, List.mem_map]
    rintro ⟨e, he, rfl⟩
    exact bne_iff_ne.1 (List.mem_filter.1 he).2 rfl
  rw [entries_insert_of_not_mem hnew, entries_erase_eq_filter]

/-- Building a table anew from its own columns gives an equal one. -/
theorem ofColumns_toList_columns_beq (t : Table) : (ofColumns t.columns.toList == t) = true := by
  have hcolumns := columns_ofColumns (columnNames_nodup (t := t))
  rw [beq_iff, contents, contents, entries, entries, hcolumns]

/-- **After any changes the index and the columns say the same,** and what they say is what a list
of entries says after these changes. Names are distinct, and a name is found exactly if a column has
it, with the cells of that column. A name that is there is replaced in place and a new one appended,
also one that was there before; erasing takes one entry out and keeping columns filters them. Built
anew from its columns, the table is equal. -/
theorem run_insertionOrdered (changes : List Change) :
    let t := Change.run changes
    t.columnNames.Nodup ∧
    (∀ name, t.contains name = true ↔ name ∈ t.columnNames) ∧
    (∀ name values, t.column? name = some values ↔
      ∃ c ∈ t.columns, c.name = name ∧ c.values = values) ∧
    t.entries = Change.runEntries changes ∧
    (∀ name values, name ∈ t.columnNames → (t.insert name values).entries =
      t.entries.map fun e => if e.1 = name then (name, values) else e) ∧
    (∀ name values, name ∉ t.columnNames →
      (t.insert name values).entries = t.entries ++ [(name, values)]) ∧
    (∀ name, (t.erase name).entries = t.entries.filter fun e => e.1 != name) ∧
    (∀ keep, (t.filterColumns keep).entries = t.entries.filter fun e => keep e.1) ∧
    (∀ name values, ((t.erase name).insert name values).entries =
      (t.entries.filter fun e => e.1 != name) ++ [(name, values)]) ∧
    (ofColumns t.columns.toList == t) = true := by
  intro t
  refine ⟨columnNames_nodup, fun _ => contains_iff, fun name values => ?_,
    Change.entries_run changes, fun _ values h => entries_insert_of_mem h values,
    fun _ values h => entries_insert_of_not_mem h values, t.entries_erase_eq_filter,
    t.entries_filterColumns, t.entries_insert_erase, t.ofColumns_toList_columns_beq⟩
  rw [column?_eq_some_iff]
  constructor
  · intro h
    exact ⟨_, h, rfl, rfl⟩
  · rintro ⟨c, hc, rfl, rfl⟩
    exact hc

end Table
end TableQuery
