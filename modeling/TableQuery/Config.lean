/-
# Configuration

How strict queries are about names that are not there, and whether what is missed is logged.
-/

namespace TableQuery

/-- What a name that is not there means for a query. -/
inductive Strictness where
  /-- The query goes on without it. -/
  | lenient
  /-- The query fails. -/
  | strict
  deriving DecidableEq, Repr

/-- The configuration of a catalog. The default is lenient and logs. -/
structure Config where
  /-- For a table, and for the column of a condition or a direction. -/
  onMissing : Strictness := .lenient
  /-- For a column that a projection lists. -/
  onUnknownProjection : Strictness := .lenient
  /-- Whether diagnostics are logged when they arise. -/
  logDiagnostics : Bool := true
  deriving DecidableEq, Repr

namespace Config

/-- Fails on every missing name. -/
def strict : Config where
  onMissing := .strict
  onUnknownProjection := .strict

end Config
end TableQuery
