import TableQuery.Engine
import TableQuery.Settings.Json
import TableQuery.Store.Directory
import TableQuery.Store.Memory
import TableQuery.Proofs.Columnar.Batch
import TableQuery.Proofs.Decode
import TableQuery.Proofs.Delimited.Changes
import TableQuery.Proofs.Delimited.Format
import TableQuery.Proofs.Delimited.Retyping
import TableQuery.Proofs.Delimited.Sheet
import TableQuery.Proofs.Number.Binary64
import TableQuery.Proofs.Number.Decimal
import TableQuery.Proofs.Number.Literal
import TableQuery.Proofs.Number.Reading
import TableQuery.Proofs.Number.Rounding
import TableQuery.Proofs.Query.Averages
import TableQuery.Proofs.Query.DistinctRows
import TableQuery.Proofs.Query.EqualKeys
import TableQuery.Proofs.Query.Extremes
import TableQuery.Proofs.Query.FailingFields
import TableQuery.Proofs.Query.Groups
import TableQuery.Proofs.Query.Index
import TableQuery.Proofs.Query.JoinedNames
import TableQuery.Proofs.Query.Medians
import TableQuery.Proofs.Query.MirroredJoins
import TableQuery.Proofs.Query.NestedLoop
import TableQuery.Proofs.Query.Partition
import TableQuery.Proofs.Query.Pull
import TableQuery.Proofs.Query.Remaining
import TableQuery.Proofs.Query.Reset
import TableQuery.Proofs.Query.Selection
import TableQuery.Proofs.Query.Sorting
import TableQuery.Proofs.Query.Stages
import TableQuery.Proofs.Query.Sums
import TableQuery.Proofs.Query.Unmatched
import TableQuery.Proofs.Query.Verdicts
import TableQuery.Proofs.Row
import TableQuery.Proofs.Row.Insertions
import TableQuery.Proofs.Sql.Chains
import TableQuery.Proofs.Sql.Clauses
import TableQuery.Proofs.Sql.Conditions
import TableQuery.Proofs.Sql.Consumption
import TableQuery.Proofs.Sql.Joins
import TableQuery.Proofs.Sql.Limits
import TableQuery.Proofs.Sql.Numerals
import TableQuery.Proofs.Sql.Precedence
import TableQuery.Proofs.Sql.Reads
import TableQuery.Proofs.Sql.RoundTrip
import TableQuery.Proofs.Sql.Shapes
import TableQuery.Proofs.Sql.Spelling
import TableQuery.Proofs.Sql.Writer
import TableQuery.Proofs.Store.Directory
import TableQuery.Proofs.Store.FileSession
import TableQuery.Proofs.Store.Insertions
import TableQuery.Proofs.Store.Literals
import TableQuery.Proofs.Store.Memory
import TableQuery.Proofs.Store.Names
import TableQuery.Proofs.Store.Queries
import TableQuery.Proofs.Store.Repeats
import TableQuery.Proofs.Store.Selections
import TableQuery.Proofs.Store.Session
import TableQuery.Proofs.Text.Case
import TableQuery.Proofs.Text.IgnoredCase
import TableQuery.Proofs.Text.Pattern
import TableQuery.Proofs.Value.Equality
import TableQuery.Proofs.Value.GroupKey
import TableQuery.Proofs.Value.Literal
import TableQuery.Proofs.Value.Number
import TableQuery.Proofs.Value.Order
import TableQuery.Proofs.Value.Reading
import TableQuery.Proofs.Value.Whole
