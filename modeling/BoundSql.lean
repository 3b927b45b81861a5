import BoundSql.Assignments
import BoundSql.Binary64
import BoundSql.Binary64.Arithmetic
import BoundSql.Calendar
import BoundSql.Clause
import BoundSql.Condition
import BoundSql.Connection
import BoundSql.Connection.Scripted
import BoundSql.Decimal.Layout
import BoundSql.Decimal.Numeral
import BoundSql.Decimal.Shortest
import BoundSql.Engine.Affinity
import BoundSql.Engine.Aggregate
import BoundSql.Engine.Arithmetic
import BoundSql.Engine.Cell
import BoundSql.Engine.Command
import BoundSql.Engine.Command.Reader
import BoundSql.Engine.Config
import BoundSql.Engine.Cursor
import BoundSql.Engine.Expression
import BoundSql.Engine.Fault
import BoundSql.Engine.Files
import BoundSql.Engine.Keyword
import BoundSql.Engine.Lazy
import BoundSql.Engine.Location
import BoundSql.Engine.Path
import BoundSql.Engine.Pattern
import BoundSql.Engine.Plan
import BoundSql.Engine.Reading
import BoundSql.Engine.RealText
import BoundSql.Engine.Result
import BoundSql.Engine.Scope
import BoundSql.Engine.Store
import BoundSql.Engine.Table
import BoundSql.Engine.Term
import BoundSql.Engine.Term.Reader
import BoundSql.Engine.Token
import BoundSql.Error
import BoundSql.Event
import BoundSql.Extended
import BoundSql.Filter.Edit
import BoundSql.Json.Printer
import BoundSql.Json.Reader
import BoundSql.Proofs.CallOrder
import BoundSql.Proofs.Conservation
import BoundSql.Proofs.Defect
import BoundSql.Proofs.Delivery
import BoundSql.Proofs.Filling
import BoundSql.Proofs.Footprint
import BoundSql.Proofs.Insertion
import BoundSql.Proofs.Placeholder
import BoundSql.Proofs.PoolTurn
import BoundSql.Proofs.Probe
import BoundSql.Proofs.Reachable
import BoundSql.Proofs.Refusal
import BoundSql.Proofs.Shape
import BoundSql.Proofs.Trail
import BoundSql.Proofs.Unambiguous
import BoundSql.Proofs.Union
import BoundSql.Proofs.Written
import BoundSql.Query
import BoundSql.Query.Count
import BoundSql.Query.Edit
import BoundSql.Query.Keyed
import BoundSql.Query.Render
import BoundSql.Query.Run
import BoundSql.Query.Same
import BoundSql.Row
import BoundSql.RowPool
import BoundSql.Text.Blank
import BoundSql.Text.Combining
import BoundSql.Text.Cut
import BoundSql.Text.Quoted
import BoundSql.Text.Scan
import BoundSql.Text.Unprintable
import BoundSql.Text.Utf8
import BoundSql.Uuid
import BoundSql.Value
import BoundSql.Value.Field
import BoundSql.Proofs.Batch
import BoundSql.Proofs.Acceptance
import BoundSql.Proofs.Paging
import BoundSql.Proofs.Alias
import BoundSql.Proofs.Appending
import BoundSql.Proofs.Locality
import BoundSql.Proofs.Keyed
import BoundSql.Proofs.KeyText
import BoundSql.Proofs.Fullness
import BoundSql.Proofs.Merging
import BoundSql.Proofs.NumberText
import BoundSql.Proofs.JsonText
import BoundSql.Proofs.Snapshot
import BoundSql.Proofs.RowObject
import BoundSql.Proofs.Truncation
import BoundSql.Proofs.Fetching
import BoundSql.Proofs.Chronology
import BoundSql.Proofs.CountText
