/-
# Tables as lists of entries

A table says no more than which cells are under which name, in which order: it is the list of its
entries. Each operation on tables is one on this list. Inserting walks the list to the name and
replaces the cells there, or comes to the end and appends; erasing takes one entry out; keeping
columns filters. Looking a name up looks it up in the list. None of this mentions positions, so the
index has no part in what a table says.

Equality of tables sees the contents of the entries, and is an equivalence.
-/

import TableQuery.Proofs.Value.Content
import TableQuery.Table.Lemmas

namespace TableQuery

/-- Names in order, each with the cells under it. -/
abbrev Entries : Type := List (String × List Value)

namespace Entries

variable {name : String} {values : List Value} {entries : Entries}

/-- Puts cells under a name: in the place of the name, or at the end if it is new. -/
def put (name : String) (values : List Value) : Entries → Entries
  | [] => [(name, values)]
  | (n, old) :: rest =>
    if n = name then (name, values) :: rest else (n, old) :: put name values rest

/-- Takes the entry of a name out. -/
def remove (name : String) : Entries → Entries
  | [] => []
  | (n, old) :: rest => if n = name then rest else (n, old) :: remove name rest

/-- A new name goes to the end. -/
theorem put_of_not_mem (h : name ∉ entries.map Prod.fst) :
    put name values entries = entries ++ [(name, values)] := by
  induction entries with
  | nil => rfl
  | cons e rest ih =>
    rw [List.map_cons, List.mem_cons, not_or] at h
    rw [put, if_neg (Ne.symm h.1), ih h.2, List.cons_append]

/-- A name that is there keeps its place. -/
theorem put_of_mem (hnodup : (entries.map Prod.fst).Nodup) (h : name ∈ entries.map Prod.fst) :
    put name values entries = entries.map fun e => if e.1 = name then (name, values) else e := by
  induction entries with
  | nil => cases h
  | cons e rest ih =>
    rw [List.map_cons, List.nodup_cons] at hnodup
    rw [List.map_cons, List.mem_cons] at h
    rw [put, List.map_cons]
    by_cases he : e.1 = name
    · -- No entry behind this one has the name, so none of them changes.
      have hrest : ∀ e' ∈ rest, (if e'.1 = name then (name, values) else e') = id e' := by
        intro e' he'
        refine if_neg fun hname => hnodup.1 ?_
        rw [he, ← hname]
        exact List.mem_map_of_mem he'
      rw [if_pos he, if_pos he, List.map_congr_left hrest, List.map_id]
    · rw [if_neg he, if_neg he, ih hnodup.2 (h.resolve_left (Ne.symm he))]

/-- Taking the entry of a name out leaves the entries of all other names. -/
theorem remove_eq_filter (hnodup : (entries.map Prod.fst).Nodup) :
    remove name entries = entries.filter fun e => e.1 != name := by
  induction entries with
  | nil => rfl
  | cons e rest ih =>
    rw [List.map_cons, List.nodup_cons] at hnodup
    rw [remove]
    by_cases he : e.1 = name
    · have hrest : ∀ e' ∈ rest, (e'.1 != name) = true := by
        intro e' he'
        rw [bne_iff_ne, ← he]
        rintro hname
        exact hnodup.1 (hname ▸ List.mem_map_of_mem he')
      rw [if_pos he, List.filter_cons_of_neg (by simp [he]), List.filter_eq_self.2 hrest]
    · rw [if_neg he, List.filter_cons_of_pos (by simp [he]), ih hnodup.2]

end Entries

/-- Looking up in changed entries gives the changed entry. -/
theorem lookup_map_snd {α β : Type} (f : α → β) (name : String) (l : List (String × α)) :
    (l.map fun e => (e.1, f e.2)).lookup name = (l.lookup name).map f := by
  induction l with
  | nil => rfl
  | cons e l ih =>
    rw [List.map_cons, List.lookup_cons, List.lookup_cons, ih]
    cases name == e.1 <;> rfl

namespace Table

variable {t u : Table} {name : String} {values : List Value}

/-- The entries of a table. -/
def entries (t : Table) : Entries := t.columns.toList.map fun c => (c.name, c.values)

theorem map_fst_entries (t : Table) : t.entries.map Prod.fst = t.columnNames := by
  rw [entries, List.map_map]
  rfl

theorem map_fst_entries_nodup (t : Table) : (t.entries.map Prod.fst).Nodup := by
  rw [map_fst_entries]
  exact columnNames_nodup

/-- The entries are all of the columns. -/
theorem columns_eq_of_entries_eq (h : t.entries = u.entries) : t.columns = u.columns := by
  have hcolumn : ∀ c d : Column, (c.name, c.values) = (d.name, d.values) → c = d := by
    rintro ⟨name, values⟩ ⟨name', values'⟩ h
    obtain ⟨rfl, rfl⟩ := Prod.mk.inj h
    rfl
  exact Array.toList_inj.1 ((List.map_inj_right hcolumn).1 h)

/-! ### Operations -/

/-- **Inserting puts the cells under the name.** -/
theorem entries_insert (t : Table) (name : String) (values : List Value) :
    (t.insert name values).entries = Entries.put name values t.entries := by
  cases h : t.contains name with
  | true =>
    have hmem : name ∈ t.entries.map Prod.fst := by
      rw [map_fst_entries]
      exact contains_iff.1 h
    rw [Entries.put_of_mem t.map_fst_entries_nodup hmem, entries, columns_insert_of_contains h,
      entries, Array.toList_map, List.map_map, List.map_map]
    refine List.map_congr_left fun c _ => ?_
    by_cases hc : c.name = name <;> simp [hc]
  | false =>
    have hmem : name ∉ t.entries.map Prod.fst := by
      rw [map_fst_entries, ← contains_iff, h]
      exact Bool.false_ne_true
    rw [Entries.put_of_not_mem hmem, entries, columns_insert_of_not_contains h, entries,
      Array.toList_push, List.map_append]
    rfl

/-- **Erasing takes the entry of the name out.** -/
theorem entries_erase (t : Table) (name : String) :
    (t.erase name).entries = Entries.remove name t.entries := by
  rw [Entries.remove_eq_filter t.map_fst_entries_nodup, entries, toList_columns_erase, entries,
    List.filter_map]
  rfl

/-- **Keeping columns keeps their entries** in order. -/
theorem entries_filterColumns (t : Table) (keep : String → Bool) :
    (t.filterColumns keep).entries = t.entries.filter fun e => keep e.1 := by
  rw [entries, columns_filterColumns, Array.toList_filter, entries, List.filter_map]
  rfl

/-- Inserting columns one after the other puts their cells one after the other. -/
theorem entries_foldl_insert (columns : List Column) (t : Table) :
    (columns.foldl (fun t c => t.insert c.name c.values) t).entries =
      columns.foldl (fun entries c => Entries.put c.name c.values entries) t.entries := by
  induction columns generalizing t with
  | nil => rfl
  | cons c columns ih => rw [List.foldl_cons, List.foldl_cons, ih, entries_insert]

/-- **Columns are put into a table one after the other.** -/
theorem entries_ofColumns (columns : List Column) :
    (ofColumns columns).entries =
      columns.foldl (fun entries c => Entries.put c.name c.values entries) [] :=
  entries_foldl_insert columns empty

/-- Changing the cells of columns leaves the names. -/
theorem entries_mapColumns (t : Table) (f : List Value → List Value) :
    (t.mapColumns f).entries = t.entries.map fun e => (e.1, f e.2) := by
  rw [entries, columns_mapColumns, Array.toList_map, entries, List.map_map, List.map_map]
  rfl

/-! ### Look-ups -/

/-- **Looking a name up in the table looks it up in the entries.** -/
theorem column?_eq_lookup (t : Table) (name : String) :
    t.column? name = t.entries.lookup name := by
  cases h : t.column? name with
  | some values =>
    have hmem := column?_eq_some_iff.1 h
    have hlookup := lookup_map (d := ⟨name, values⟩) Column.values (Array.mem_toList_iff.2 hmem)
      fun c hc => eq_of_name_eq (Array.mem_toList_iff.1 hc) hmem
    exact hlookup.symm
  | none =>
    symm
    rw [List.lookup_eq_none_iff]
    intro e he
    rw [bne_iff_ne]
    rintro rfl
    refine column?_eq_none_iff.1 h ?_
    rw [← map_fst_entries]
    exact List.mem_map_of_mem he

/-- Changed cells are found under the name that they had. -/
theorem column?_mapColumns (t : Table) (f : List Value → List Value) (name : String) :
    (t.mapColumns f).column? name = (t.column? name).map f := by
  rw [column?_eq_lookup, entries_mapColumns, lookup_map_snd, ← column?_eq_lookup]

/-- A column that is kept is found as before. -/
theorem column?_filterColumns {keep : String → Bool} (hkeep : keep name = true) :
    (t.filterColumns keep).column? name = t.column? name := by
  have hmem : ∀ values : List Value,
      ⟨name, values⟩ ∈ (t.filterColumns keep).columns ↔ ⟨name, values⟩ ∈ t.columns := by
    intro values
    rw [columns_filterColumns, Array.mem_filter]
    exact and_iff_left hkeep
  apply Option.ext
  intro values
  rw [column?_eq_some_iff, column?_eq_some_iff, hmem]

/-! ### Equality -/

/-- The entries as equality of tables sees them. -/
def contents (t : Table) : List (String × List Value.Content) :=
  t.entries.map fun e => (e.1, e.2.map Value.content)

/-- **Tables are equal if they have the same contents**, whatever their indexes. -/
theorem beq_iff (t u : Table) : (t == u) = true ↔ t.contents = u.contents := by
  have hcolumn : ∀ c d : Column, (c == d) = true ↔
      (c.name, c.values.map Value.content) = (d.name, d.values.map Value.content) := by
    intro c d
    change (c.name == d.name && c.values == d.values) = true ↔ _
    rw [Bool.and_eq_true, beq_iff_eq, Value.beq_list_iff, Prod.mk.injEq]
  change (t.columns == u.columns) = true ↔ _
  rw [← Array.beq_toList, contents, contents, entries, entries, List.map_map, List.map_map]
  exact list_beq_iff hcolumn _ _

instance : EquivBEq Table where
  rfl {t} := (beq_iff t t).2 rfl
  symm {t u} h := (beq_iff u t).2 ((beq_iff t u).1 h).symm
  trans {t u v} htu huv := (beq_iff t v).2 (((beq_iff t u).1 htu).trans ((beq_iff u v).1 huv))

end Table
end TableQuery
