import FluentSql.Bindings
import FluentSql.Clause
import FluentSql.Database
import FluentSql.Dialect
import FluentSql.Dialect.Quoting
import FluentSql.Double
import FluentSql.Double.Decimal
import FluentSql.Error
import FluentSql.Execution
import FluentSql.Join
import FluentSql.Json
import FluentSql.Json.Number
import FluentSql.Json.Reader
import FluentSql.Log
import FluentSql.Operator
import FluentSql.Proofs.Additions
import FluentSql.Proofs.Alignment.Clauses
import FluentSql.Proofs.Alignment.Clean
import FluentSql.Proofs.Alignment.Compiled
import FluentSql.Proofs.Alignment.Embedding
import FluentSql.Proofs.Alignment.Filtering
import FluentSql.Proofs.Alignment.InOrder
import FluentSql.Proofs.Alignment.Inlining
import FluentSql.Proofs.Alignment.Projection
import FluentSql.Proofs.Alignment.Select
import FluentSql.Proofs.Alignment.Simulation
import FluentSql.Proofs.Alignment.Twin
import FluentSql.Proofs.Alignment.Writing
import FluentSql.Proofs.Bytes
import FluentSql.Proofs.Chain
import FluentSql.Proofs.Chronology
import FluentSql.Proofs.Chronology.Calendar
import FluentSql.Proofs.Chronology.Digits
import FluentSql.Proofs.Depth
import FluentSql.Proofs.Disjunction
import FluentSql.Proofs.Embedded.Influence
import FluentSql.Proofs.Embedded.Revision
import FluentSql.Proofs.Emptying
import FluentSql.Proofs.Filling
import FluentSql.Proofs.Filtered
import FluentSql.Proofs.Flattening
import FluentSql.Proofs.Having
import FluentSql.Proofs.Identified
import FluentSql.Proofs.Insertion
import FluentSql.Proofs.Leading
import FluentSql.Proofs.Ledger
import FluentSql.Proofs.Masking.Building
import FluentSql.Proofs.Masking.Rendering
import FluentSql.Proofs.Masking.Shape
import FluentSql.Proofs.Merging
import FluentSql.Proofs.Occurrence
import FluentSql.Proofs.Offsets
import FluentSql.Proofs.Paged
import FluentSql.Proofs.Parts
import FluentSql.Proofs.RawFree
import FluentSql.Proofs.RawFree.Sent
import FluentSql.Proofs.Refusal
import FluentSql.Proofs.Reordering
import FluentSql.Proofs.Routing
import FluentSql.Proofs.Sending
import FluentSql.Proofs.Shapes
import FluentSql.Proofs.Submission
import FluentSql.Proofs.Subtexts
import FluentSql.Proofs.Trace
import FluentSql.Proofs.Truth
import FluentSql.Proofs.Unions
import FluentSql.Proofs.Unmarked
import FluentSql.Proofs.Unquoting
import FluentSql.Proofs.WellFormed
import FluentSql.Record
import FluentSql.Record.Reading
import FluentSql.Reference
import FluentSql.Statement
import FluentSql.Statement.Call
import FluentSql.Statement.Filtering
import FluentSql.Statement.Joining
import FluentSql.Statement.Merging
import FluentSql.Statement.Paging
import FluentSql.Statement.Projection
import FluentSql.Statement.Render
import FluentSql.Statement.Running
import FluentSql.Statement.Terminal
import FluentSql.Statement.Writing
import FluentSql.Storage
import FluentSql.Storage.Script
import FluentSql.Text.Blank
import FluentSql.Text.Digits
import FluentSql.Text.Scan
import FluentSql.Value
import FluentSql.Value.Calendar
import FluentSql.Value.Json
