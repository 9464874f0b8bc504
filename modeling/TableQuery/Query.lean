/-
# Queries

A query names a table, may filter its rows and sort them, and projects the outcome to some of its
columns, in this order. So conditions and directions see all columns, also those that are not
projected. The stages hand the table on; the catalog is only read.
-/

import TableQuery.Condition
import TableQuery.Direction
import TableQuery.Projection

namespace TableQuery

/-- A query `SELECT … FROM … WHERE … ORDER BY …`, the last two parts being optional. -/
structure Query where
  columns : Projection
  source : String
  condition? : Option Condition := none
  direction? : Option Direction := none

namespace Query

instance : BEq Query :=
  ⟨fun a b => a.columns == b.columns && a.source == b.source && a.condition? == b.condition? &&
    a.direction? == b.direction?⟩

/-- The SQL text of the reference to a table. -/
def sourceSql (name : String) : String := "FROM " ++ name

/-- The SQL text of a part that may be missing, after a space. -/
def optionalSql {α : Type} (sql : α → String) : Option α → String
  | some a => " " ++ sql a
  | none => ""

/-- The SQL text of a query. -/
def sql (q : Query) : String :=
  "SELECT " ++ q.columns.sql ++ " " ++ sourceSql q.source ++
    optionalSql Condition.filterSql q.condition? ++ optionalSql Direction.sortSql q.direction?

/-- Logs how many rows a stage has left. -/
def logRows (stage : String) (e : Evaluation) : Logged Unit :=
  Logged.send .debug (stage ++ ": " ++ toString e.table.rowCount ++ " rows")

/-- Hands the table of an evaluation to a stage, and logs how many rows it leaves. -/
def runStage (sql : String) (stage : Table → Logged Evaluation) (e : Evaluation) :
    Logged Evaluation := do
  let next ← e.andThen stage
  logRows sql next
  return next

/-- Filters the rows, if the query has a condition. -/
def filterStage (q : Query) (catalog : Catalog) (e : Evaluation) : Logged Evaluation :=
  match q.condition? with
  | some c => runStage c.filterSql (c.filter catalog q.source) e
  | none => return e

/-- Sorts the rows, if the query has a direction. -/
def sortStage (q : Query) (catalog : Catalog) (e : Evaluation) : Logged Evaluation :=
  match q.direction? with
  | some d => runStage d.sortSql (d.sort catalog q.source) e
  | none => return e

/-- Evaluates a query. -/
def evaluate (q : Query) (catalog : Catalog) : Logged Evaluation := do
  let source ← catalog.fetch q.source
  logRows (sourceSql q.source) source
  let filtered ← q.filterStage catalog source
  let sorted ← q.sortStage catalog filtered
  sorted.andThen (q.columns.project catalog q.source)

/-- The table a query gives, or why the configuration of the catalog makes it fail. -/
def run (q : Query) (catalog : Catalog) : Logged (Except QueryError Table) :=
  Evaluation.result catalog.config <$> q.evaluate catalog

end Query
end TableQuery
