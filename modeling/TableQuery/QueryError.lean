/-
# Errors

What can fail: a table or a column is not there, or a table is refused. Queries themselves never
fail; a missing name becomes an error only under a strict configuration.
-/

namespace TableQuery

/-- Why something failed. -/
inductive QueryError where
  /-- No table has the name. -/
  | tableNotFound (name : String)
  /-- The table that is named has no such column. -/
  | columnNotFound (table column : String)
  /-- What was asked for makes no sense. -/
  | invalidOperation (reason : String)
  deriving DecidableEq, Repr

namespace QueryError

/-- The text of an error. -/
def message : QueryError → String
  | tableNotFound name => "Table not found: " ++ name
  | columnNotFound table column => "Column " ++ column ++ " not found in table " ++ table
  | invalidOperation reason => "Invalid operation: " ++ reason

end QueryError
end TableQuery
