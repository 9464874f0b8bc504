/-
# Tables

A table is a sequence of columns, in the order in which their names first came in, and the index
that finds a column by its name. The type carries the proof that the index fits the columns, so
names are distinct, and the columns alone say what a table is. Columns may differ in length.
-/

import TableQuery.Table.Index

namespace TableQuery

/-- A sequence of columns with distinct names, and the index that finds them. -/
structure Table where
  /-- The columns in order. -/
  columns : Array Column
  /-- Where a name is. -/
  index : Std.HashMap String Nat
  indexed : Indexes index columns

namespace Table

/-- The table without columns. -/
def empty : Table := ⟨#[], ∅, .empty⟩

instance : Inhabited Table := ⟨empty⟩

/-- Tables are equal if they have the same columns in the same order. -/
instance : BEq Table := ⟨fun t u => t.columns == u.columns⟩

/-- A column by its name. -/
def column? (t : Table) (name : String) : Option (List Value) :=
  t.index[name]?.bind fun i => t.columns[i]?.map Column.values

/-- Whether a column has the name. -/
def contains (t : Table) (name : String) : Bool := t.index.contains name

/-- The names of the columns in order. -/
def columnNames (t : Table) : List String := t.columns.toList.map Column.name

/-- The number of columns. -/
def columnCount (t : Table) : Nat := t.columns.size

/-- Whether there is no column. -/
def isEmpty (t : Table) : Bool := t.columns.isEmpty

/-- The table with other cells in the column at a position. -/
def setValues (t : Table) (i : Nat) (values : List Value) : Table where
  columns := t.columns.modify i fun c => { c with values := values }
  index := t.index
  indexed := t.indexed.of_names_eq fun j => by
    rw [Array.getElem?_modify]
    split
    · simp [Option.map_map, Function.comp_def]
    · rfl

/-- The table with a column added at the end, or with the cells of the column that has the name
replaced where it stands. -/
def insert (t : Table) (name : String) (values : List Value) : Table :=
  match h : t.index[name]? with
  | some i => t.setValues i values
  | none =>
    { columns := t.columns.push ⟨name, values⟩
      index := t.index.insert name t.columns.size
      indexed := t.indexed.push h values }

/-- The table without the column that has the name; those behind it move up. -/
def erase (t : Table) (name : String) : Table :=
  match h : t.index[name]? with
  | some i =>
    { columns := t.columns.eraseIdx i (t.indexed.lt_size h)
      index := (t.index.erase name).map fun _ j => if i < j then j - 1 else j
      indexed := t.indexed.eraseIdx h }
  | none => t

/-- The table of columns with distinct names. -/
def ofDistinct (columns : Array Column) (h : (columns.toList.map Column.name).Nodup) : Table where
  columns := columns
  index := Std.HashMap.ofList (columns.toList.map Column.name).zipIdx
  indexed := Indexes.ofList_zipIdx h

/-- The table of those columns whose names pass a test. -/
def filterColumns (t : Table) (keep : String → Bool) : Table :=
  ofDistinct (t.columns.filter fun c => keep c.name) <| by
    rw [Array.toList_filter]
    exact t.indexed.nodup.sublist (List.filter_sublist.map _)

/-- The table of the given columns. Of columns with one name the last gives the cells, the first
the place. -/
def ofColumns (columns : List Column) : Table :=
  columns.foldl (fun t c => t.insert c.name c.values) empty

/-- The table with other cells under the same names, built anew from the changed columns. -/
def mapColumns (t : Table) (f : List Value → List Value) : Table :=
  ofColumns (t.columns.toList.map fun c => { c with values := f c.values })

/-- The table with a column of elements that all become cells in one way. -/
def withColumn {α : Type} [ToValue α] (t : Table) (name : String) (elements : List α) : Table :=
  t.insert name (elements.map ToValue.toValue)

end Table
end TableQuery
