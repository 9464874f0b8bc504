import TableQuery.Binary64.Basic
import TableQuery.Binary64.Rounding
import TableQuery.Binary64.Arithmetic
import TableQuery.Binary64.Shortest
import TableQuery.Text.Blank
import TableQuery.Text.Lowercase.Ranges
import TableQuery.Text.Lowercase
import TableQuery.Text.Numeral
import TableQuery.Text.Quoted
import TableQuery.Collation
import TableQuery.Collation.Scan
import TableQuery.Value.Basic
import TableQuery.Value.Number
import TableQuery.Value.Order
import TableQuery.Value.Text
import TableQuery.Comparison
import TableQuery.QueryError
import TableQuery.Table.Index
import TableQuery.Table.Basic
import TableQuery.Table.Rows
import TableQuery.Table.Lemmas
import TableQuery.Table.Grid
import TableQuery.Config
import TableQuery.Diagnostic
import TableQuery.Log
import TableQuery.Evaluation
import TableQuery.Catalog
import TableQuery.Condition
import TableQuery.Direction
import TableQuery.Projection
import TableQuery.Query
import TableQuery.Clause
import TableQuery.Proofs.Collation.Tokens
import TableQuery.Proofs.Collation.StrictOrder
import TableQuery.Proofs.Collation.Scan
import TableQuery.Proofs.Collation.Numbers
import TableQuery.Proofs.Collation.TwoLevels
import TableQuery.Proofs.Text.Fields
import TableQuery.Proofs.Binary64.Representable
import TableQuery.Proofs.Binary64.Arithmetic
import TableQuery.Proofs.Binary64.ExactValue
import TableQuery.Proofs.Binary64.Rounding
import TableQuery.Proofs.Value.NumberOrder
import TableQuery.Proofs.Value.SortOrder
import TableQuery.Proofs.Direction.Ranking
import TableQuery.Proofs.Direction.Successive
import TableQuery.Proofs.Query.Meaning
import TableQuery.Proofs.Query.Outcome
import TableQuery.Proofs.Value.Content
import TableQuery.Proofs.Table.Entries
import TableQuery.Proofs.Table.GridReading
import TableQuery.Proofs.Table.History
import TableQuery.Proofs.Clause.Standalone
import TableQuery.Proofs.Catalog.Session
import TableQuery.Proofs.Query.Register
import TableQuery.Proofs.Value.Congruence
import TableQuery.Proofs.Table.Congruence
import TableQuery.Proofs.Query.Congruence
import TableQuery.Proofs.Value.ExactOrder
import TableQuery.Proofs.Value.FloatReading
import TableQuery.Proofs.Query.Account
import TableQuery.Proofs.Clause.Described
import TableQuery.Proofs.Query.Sql
import TableQuery.Proofs.Projection.Pushdown
import TableQuery.Proofs.Query.Rerun
import TableQuery.Proofs.Query.Commute
import TableQuery.Proofs.Query.WholeRows
import TableQuery.Proofs.Condition.Partition
import TableQuery.Proofs.Direction.Blocks
import TableQuery.Proofs.Direction.KeptRows
import TableQuery.Proofs.Binary64.Nearest
import TableQuery.Proofs.Binary64.Shortest
import TableQuery.Proofs.Text.ReadBack
import TableQuery.Proofs.Value.SameText
import TableQuery.Proofs.Condition.SameSql
