/-
# Projections

A projection lists the columns to keep. An asterisk anywhere in the list keeps all of them. The
columns that are kept stay in the order of the table, whatever the order of the list.

Listed names that the table does not have are passed over, unless the configuration is strict about
them: then each is reported, as often as it is listed.
-/

import TableQuery.Catalog

namespace TableQuery

/-- A list of column names. -/
structure Projection where
  names : List String
  deriving DecidableEq, Repr

namespace Projection

/-- The name that stands for all columns. -/
def wildcard : String := "*"

/-- The projection to all columns. -/
def all : Projection := ⟨[wildcard]⟩

/-- Whether all columns are kept. -/
def isWildcard (p : Projection) : Bool := p.names.contains wildcard

/-- Whether a name is listed. -/
def contains (p : Projection) (name : String) : Bool := p.names.contains name

/-- The SQL text of a projection. -/
def sql (p : Projection) : String := String.intercalate ", " p.names

/-- The name of the column of listed names. -/
def literalsColumn : String := "literals"

/-- The listed names that the table does not have, in the order of the list. -/
def unknownNames (p : Projection) (t : Table) : List String :=
  p.names.filter fun name => !t.contains name

/-- Reports each listed name that the table does not have, under a strict configuration. -/
def reportUnknown (p : Projection) (catalog : Catalog) (source : String) (t : Table) :
    Logged (List Diagnostic) :=
  match catalog.config.onUnknownProjection with
  | .strict => (p.unknownNames t).mapM fun name => catalog.report (.unknownProjection source name)
  | .lenient => return []

/-- The listed columns of a table. `source` is the table's name in the diagnostics. -/
def project (p : Projection) (catalog : Catalog) (source : String) (t : Table) :
    Logged Evaluation := do
  if p.isWildcard then
    return .ofTable t
  else
    let diagnostics ← p.reportUnknown catalog source t
    return ⟨t.filterColumns p.contains, diagnostics⟩

/-- The listed names as a table. -/
def literals (p : Projection) : Evaluation :=
  .ofTable (Table.empty.withColumn literalsColumn p.names)

end Projection
end TableQuery
