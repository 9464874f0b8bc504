/-
# Diagnostics

A name that is not there does not stop an evaluation: a replacement is used, and a diagnostic says
so. The configuration decides whether the diagnostic makes the query fail.
-/

import TableQuery.Config
import TableQuery.QueryError

namespace TableQuery

/-- What an evaluation missed. -/
inductive Diagnostic where
  /-- No table has the name; the empty table took its place. -/
  | missingTable (name : String)
  /-- A condition or a direction names a column that the table does not have. -/
  | missingColumn (table column : String)
  /-- A projection lists a column that the table does not have. -/
  | unknownProjection (table column : String)
  deriving DecidableEq, Repr

namespace Diagnostic

/-- The text of a diagnostic. -/
def text : Diagnostic → String
  | missingTable name => "No table named \"" ++ name ++ "\" was found!"
  | missingColumn _ column => "No column named \"" ++ column ++ "\" was found!"
  | unknownProjection table column =>
    "Projected column \"" ++ column ++ "\" does not exist in \"" ++ table ++ "\""

/-- The error that a diagnostic becomes where it is fatal. -/
def toError : Diagnostic → QueryError
  | missingTable name => .tableNotFound name
  | missingColumn table column => .columnNotFound table column
  | unknownProjection table column => .columnNotFound table column

/-- Whether a diagnostic makes a query fail. Unknown projections are only reported where they do. -/
def isFatal (config : Config) : Diagnostic → Bool
  | missingTable _ => config.onMissing == .strict
  | missingColumn _ _ => config.onMissing == .strict
  | unknownProjection _ _ => true

end Diagnostic
end TableQuery
