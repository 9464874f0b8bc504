/-
# Catalogs

A catalog holds tables under names, and the configuration under which queries on it run. Evaluating
a query only reads it.

One name is reserved by custom: clauses that stand alone, without a query around them, take the
table under `selection` as their input.
-/

import Std.Data.TreeMap
import TableQuery.Evaluation
import TableQuery.Table.Rows

namespace TableQuery

/-- Tables by name, and a configuration. -/
structure Catalog where
  /-- The tables in the order of their names. -/
  tables : Std.TreeMap String Table
  config : Config

namespace Catalog

/-- The name of the table that clauses standing alone read. -/
def selection : String := "selection"

/-- The catalog without tables. -/
def empty (config : Config) : Catalog := ⟨∅, config⟩

/-- Registers a table. It replaces the one that had the name. -/
def insert (c : Catalog) (name : String) (t : Table) : Catalog :=
  { c with tables := c.tables.insert name t }

/-- Validates a table, and then registers it. The catalog is handed on also where that fails. -/
def tryInsert (name : String) (t : Table) : EStateM QueryError Catalog Unit := do
  MonadExcept.ofExcept t.validate
  modify fun c => c.insert name t

/-- The catalog without the table under a name. -/
def erase (c : Catalog) (name : String) : Catalog :=
  { c with tables := c.tables.erase name }

/-- Whether a table has the name. -/
def contains (c : Catalog) (name : String) : Bool := c.tables.contains name

/-- The table under a name. -/
def get? (c : Catalog) (name : String) : Option Table := c.tables[name]?

/-- The names of all tables, sorted by code points. -/
def tableNames (c : Catalog) : List String := c.tables.keys

/-- Passes a diagnostic on, and logs it where the configuration says so. -/
def report (c : Catalog) (d : Diagnostic) : Logged Diagnostic where
  value := d
  records := if c.config.logDiagnostics then [⟨.warn, d.text⟩] else []

/-- The table under a name. The empty table takes the place of a missing one. -/
def fetch (c : Catalog) (name : String) : Logged Evaluation :=
  match c.get? name with
  | some t => return .ofTable t
  | none => do
    let d ← c.report (.missingTable name)
    return (Evaluation.ofTable .empty).withDiagnostic d

@[simp] theorem get?_empty (config : Config) (name : String) : (empty config).get? name = none :=
  Std.TreeMap.getElem?_emptyc

@[simp] theorem get?_insert_self (c : Catalog) (name : String) (t : Table) :
    (c.insert name t).get? name = some t :=
  Std.TreeMap.getElem?_insert_self

theorem get?_insert (c : Catalog) (name : String) (t : Table) (n : String) :
    (c.insert name t).get? n = if name = n then some t else c.get? n := by
  rw [get?, insert, Std.TreeMap.getElem?_insert]
  simp only [Std.LawfulEqCmp.compare_eq_iff_eq]
  rfl

theorem get?_erase (c : Catalog) (name n : String) :
    (c.erase name).get? n = if name = n then none else c.get? n := by
  rw [get?, erase, Std.TreeMap.getElem?_erase]
  simp only [Std.LawfulEqCmp.compare_eq_iff_eq]
  rfl

theorem contains_eq_isSome_get? (c : Catalog) (name : String) :
    c.contains name = (c.get? name).isSome :=
  Std.TreeMap.contains_eq_isSome_getElem?

end Catalog
end TableQuery
