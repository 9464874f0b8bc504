/-
# Clauses

A clause is a query or a part of one. Every clause has a text and evaluates to a table: a reference
gives the table it names; filters, conditions, sortings and directions work on the selection; a
projection gives the table of its names.
-/

import TableQuery.Query

namespace TableQuery

/-- A query or a part of one. -/
inductive Clause where
  | query (q : Query)
  | source (name : String)
  | filter (c : Condition)
  | condition (c : Condition)
  | sorting (d : Direction)
  | direction (d : Direction)
  | projection (p : Projection)

namespace Clause

/-- The same kind of clause with the same content. -/
protected def beq : Clause → Clause → Bool
  | query a, query b => a == b
  | source a, source b => a == b
  | filter a, filter b => a == b
  | condition a, condition b => a == b
  | sorting a, sorting b => a == b
  | direction a, direction b => a == b
  | projection a, projection b => a == b
  | _, _ => false

instance : BEq Clause := ⟨Clause.beq⟩

/-- The SQL text of a clause. -/
def sql : Clause → String
  | query q => q.sql
  | source name => Query.sourceSql name
  | filter c => c.filterSql
  | condition c => c.sql
  | sorting d => d.sortSql
  | direction d => d.sql
  | projection p => p.sql

/-- The table a clause refers to. -/
def source? : Clause → Option String
  | query q => some q.source
  | source name => some name
  | _ => none

/-- The condition in a clause. -/
def condition? : Clause → Option Condition
  | query q => q.condition?
  | filter c | condition c => some c
  | _ => none

/-- The direction in a clause. -/
def direction? : Clause → Option Direction
  | query q => q.direction?
  | sorting d | direction d => some d
  | _ => none

/-- The projection in a clause. -/
def projection? : Clause → Option Projection
  | query q => some q.columns
  | projection p => some p
  | _ => none

/-- Evaluates a clause. -/
def evaluate (clause : Clause) (catalog : Catalog) : Logged Evaluation :=
  match clause with
  | query q => q.evaluate catalog
  | source name => catalog.fetch name
  | filter c => c.filterSelection catalog
  | condition c => c.classifySelection catalog
  | sorting d => d.sortSelection catalog
  | direction d => d.orderSelection catalog
  | projection p => return p.literals

end Clause
end TableQuery
