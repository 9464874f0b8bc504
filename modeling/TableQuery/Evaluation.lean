/-
# Evaluations

The outcome of evaluating a clause: always a table, and the diagnostics met on the way, in order.
Stages are chained by handing the table on and collecting the diagnostics. At the end a
configuration turns the outcome into the table or into the error of the first fatal diagnostic.
-/

import TableQuery.Diagnostic
import TableQuery.Log
import TableQuery.Table.Basic

namespace TableQuery

/-- A table and what was missed while it was made. -/
structure Evaluation where
  table : Table
  diagnostics : List Diagnostic

namespace Evaluation

instance : BEq Evaluation :=
  ⟨fun a b => a.table == b.table && a.diagnostics == b.diagnostics⟩

/-- A table for which nothing was missed. -/
def ofTable (t : Table) : Evaluation := ⟨t, []⟩

/-- One more diagnostic at the end. -/
def withDiagnostic (e : Evaluation) (d : Diagnostic) : Evaluation :=
  { e with diagnostics := e.diagnostics ++ [d] }

/-- One more diagnostic at the end, if there is one. -/
def withOptional (e : Evaluation) (d? : Option Diagnostic) : Evaluation :=
  { e with diagnostics := e.diagnostics ++ d?.toList }

/-- The table of the later evaluation, the diagnostics of both. -/
def followedBy (e next : Evaluation) : Evaluation :=
  ⟨next.table, e.diagnostics ++ next.diagnostics⟩

/-- The table of this evaluation, the diagnostics of both. -/
def merge (e other : Evaluation) : Evaluation :=
  { e with diagnostics := e.diagnostics ++ other.diagnostics }

/-- Hands the table to the next stage. -/
def andThen (e : Evaluation) (stage : Table → Logged Evaluation) : Logged Evaluation :=
  e.followedBy <$> stage e.table

/-- Whether nothing was missed. -/
def isClean (e : Evaluation) : Bool := e.diagnostics.isEmpty

/-- The table, or the error of the first diagnostic that is fatal. -/
def result (config : Config) (e : Evaluation) : Except QueryError Table :=
  match e.diagnostics.find? (·.isFatal config) with
  | some d => .error d.toError
  | none => .ok e.table

@[simp] theorem value_andThen (e : Evaluation) (stage : Table → Logged Evaluation) :
    (e.andThen stage).value = e.followedBy (stage e.table).value := rfl

@[simp] theorem records_andThen (e : Evaluation) (stage : Table → Logged Evaluation) :
    (e.andThen stage).records = (stage e.table).records := Logged.records_map _ _

end Evaluation
end TableQuery
