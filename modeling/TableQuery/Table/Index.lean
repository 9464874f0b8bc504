/-
# Columns and their index

A column is a name and a list of cells. Where columns stand in a sequence, an index finds them by
name: it maps a name to the position of the column that has it. What an index has to satisfy is
`Indexes`, and since it is an equivalence, an index exists only if names are distinct.

An index can be built for any columns with distinct names. It follows the changes that tables make:
cells may change under it, a column may be appended, and one may be taken out, where the positions
behind it move up by one.
-/

import Std.Data.HashMap
import TableQuery.Value.Basic

namespace TableQuery

/-- A named column of cells. -/
structure Column where
  /-- What the column is found by. -/
  name : String
  /-- The cells from top to bottom. -/
  values : List Value

namespace Column

/-- The number of cells. -/
def length (c : Column) : Nat := c.values.length

/-- Whether there is no cell. -/
def isEmpty (c : Column) : Bool := c.values.isEmpty

instance : BEq Column := ⟨fun a b => a.name == b.name && a.values == b.values⟩

end Column

/-- A name is at a position in the index exactly if the column there has that name. -/
def Indexes (index : Std.HashMap String Nat) (columns : Array Column) : Prop :=
  ∀ name i, index[name]? = some i ↔ columns[i]?.map Column.name = some name

namespace Indexes

variable {index : Std.HashMap String Nat} {columns : Array Column} {name : String} {i : Nat}

theorem empty : Indexes ∅ #[] := by simp [Indexes]

/-- Columns are at different positions only if they have different names. -/
theorem unique (h : Indexes index columns) {j : Nat}
    (hi : columns[i]?.map Column.name = some name)
    (hj : columns[j]?.map Column.name = some name) : i = j :=
  Option.some.inj (((h name i).2 hi).symm.trans ((h name j).2 hj))

/-- The index leads to a column. -/
theorem lt_size (h : Indexes index columns) (hi : index[name]? = some i) : i < columns.size := by
  obtain ⟨c, hc, -⟩ := Option.map_eq_some_iff.1 ((h name i).1 hi)
  exact (Array.getElem?_eq_some_iff.1 hc).1

/-- **Indexed columns have distinct names.** -/
theorem nodup (h : Indexes index columns) : (columns.toList.map Column.name).Nodup := by
  rw [List.Nodup, List.pairwise_iff_getElem]
  intro i j hi hj hij hname
  simp only [List.length_map, Array.length_toList] at hi hj
  simp only [List.getElem_map, Array.getElem_toList] at hname
  have hi' : columns[i]?.map Column.name = some columns[i].name := by simp [hi]
  have hj' : columns[j]?.map Column.name = some columns[i].name := by simp [hj, hname]
  exact absurd (h.unique hi' hj') (Nat.ne_of_lt hij)

/-- **Distinct names can be indexed:** each name with its place in the list. -/
theorem ofList_zipIdx (h : (columns.toList.map Column.name).Nodup) :
    Indexes (Std.HashMap.ofList (columns.toList.map Column.name).zipIdx) columns := by
  intro name i
  have hp : ((columns.toList.map Column.name).zipIdx).Pairwise
      fun a b => (a.1 == b.1) = false := by
    rw [← List.pairwise_map (f := Prod.fst) (R := fun a b => (a == b) = false)]
    simpa [List.zipIdx_map_fst, List.Nodup] using h
  have hm : (name, i) ∈ (columns.toList.map Column.name).zipIdx ↔
      columns[i]?.map Column.name = some name := by
    rw [List.mk_mem_zipIdx_iff_getElem?]
    simp
  rw [← hm]
  constructor
  · intro hi
    by_cases hc : ((columns.toList.map Column.name).zipIdx.map Prod.fst).contains name = true
    · obtain ⟨⟨n, j⟩, hj, rfl⟩ := List.mem_map.1 (List.contains_iff_mem.1 hc)
      rw [Std.HashMap.getElem?_ofList_of_mem (k := n) BEq.rfl hp hj] at hi
      exact Option.some.inj hi ▸ hj
    · rw [Std.HashMap.getElem?_ofList_of_contains_eq_false (by simpa using hc)] at hi
      simp at hi
  · intro hi
    exact Std.HashMap.getElem?_ofList_of_mem BEq.rfl hp hi

/-- Cells may change as long as names stay. -/
theorem of_names_eq (h : Indexes index columns) {columns' : Array Column}
    (hname : ∀ i : Nat, columns'[i]?.map Column.name = columns[i]?.map Column.name) :
    Indexes index columns' := by
  intro name i
  rw [h, hname]

/-- A new name is put at the end. -/
theorem push (h : Indexes index columns) (hnew : index[name]? = none) (values : List Value) :
    Indexes (index.insert name columns.size) (columns.push ⟨name, values⟩) := by
  intro n j
  rw [Std.HashMap.getElem?_insert, Array.getElem?_push]
  by_cases hn : name = n
  · subst hn
    rw [if_pos BEq.rfl]
    constructor
    · rintro ⟨⟩
      simp
    · intro hj
      split at hj
      · simp_all
      · rw [(h name j).2 hj] at hnew
        exact absurd hnew (Option.some_ne_none j)
  · rw [if_neg (by simpa using hn), h]
    split
    · rename_i hj
      subst hj
      simp [hn]
    · rfl

/-- A name is taken out, and the positions behind it move up. -/
theorem eraseIdx (h : Indexes index columns) (hi : index[name]? = some i) :
    Indexes ((index.erase name).map fun _ j => if i < j then j - 1 else j)
      (columns.eraseIdx i (h.lt_size hi)) := by
  intro n j
  have hname := (h name i).1 hi
  rw [Std.HashMap.getElem?_map, Std.HashMap.getElem?_erase, Array.getElem?_eraseIdx]
  by_cases hn : name = n
  · subst hn
    rw [if_pos BEq.rfl]
    constructor
    · simp
    · intro hj
      split at hj <;> have := h.unique hname hj <;> omega
  · rw [if_neg (by simpa using hn)]
    constructor
    · intro hj
      obtain ⟨k, hk, rfl⟩ := Option.map_eq_some_iff.1 hj
      have hk' := (h n k).1 hk
      have hki : k ≠ i := by
        rintro rfl
        exact hn (Option.some.inj (hname.symm.trans hk'))
      by_cases hlt : i < k
      · rw [if_pos hlt, if_neg (by omega), Nat.sub_add_cancel (by omega)]
        exact hk'
      · rw [if_neg hlt, if_pos (by omega)]
        exact hk'
    · intro hj
      split at hj
      · rw [(h n j).2 hj]
        simp; omega
      · rw [(h n (j + 1)).2 hj]
        simp; omega

end Indexes
end TableQuery
