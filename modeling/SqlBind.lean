import SqlBind.Arg
import SqlBind.Arg.Wire
import SqlBind.Calendar.Date
import SqlBind.Calendar.Read
import SqlBind.Calendar.Text
import SqlBind.Calendar.Time
import SqlBind.Calendar.Timestamp
import SqlBind.Change
import SqlBind.Coercion
import SqlBind.Column
import SqlBind.CommandLine.Command
import SqlBind.CommandLine.Fault
import SqlBind.CommandLine.Group
import SqlBind.CommandLine.Help
import SqlBind.CommandLine.Run
import SqlBind.Config
import SqlBind.Db
import SqlBind.Db.Changes
import SqlBind.Db.Transaction
import SqlBind.Decimal.Basic
import SqlBind.Decimal.Double
import SqlBind.Decimal.Text
import SqlBind.Dialect
import SqlBind.Duration
import SqlBind.Error
import SqlBind.Identifier
import SqlBind.Json.Basic
import SqlBind.Json.Number
import SqlBind.Json.Print
import SqlBind.Json.Read
import SqlBind.Json.Shape
import SqlBind.Log
import SqlBind.Main
import SqlBind.Number.BigEndian
import SqlBind.Number.Binary
import SqlBind.Number.Double
import SqlBind.Number.FloatNumeral
import SqlBind.Number.Layout
import SqlBind.Number.Numeral
import SqlBind.Number.Power
import SqlBind.Number.Rounding
import SqlBind.Number.Shortest
import SqlBind.Number.Word
import SqlBind.OrderedMap
import SqlBind.Ordering
import SqlBind.Params
import SqlBind.Postgres.Catalog
import SqlBind.Postgres.ConnectionString
import SqlBind.Postgres.Decode
import SqlBind.Postgres.Encode
import SqlBind.Postgres.Ending
import SqlBind.Postgres.Numeric
import SqlBind.Postgres.Parameter
import SqlBind.Postgres.Pool
import SqlBind.Postgres.Server
import SqlBind.Postgres.Session
import SqlBind.Postgres.Type
import SqlBind.Proofs.Arg.Literals
import SqlBind.Proofs.Arg.Wire
import SqlBind.Proofs.Calendar.Civil
import SqlBind.Proofs.Calendar.Text
import SqlBind.Proofs.Coercion.Calendar
import SqlBind.Proofs.Coercion.Canonical
import SqlBind.Proofs.Coercion.Integer
import SqlBind.Proofs.CommandLine.Groups
import SqlBind.Proofs.CommandLine.Rearranging
import SqlBind.Proofs.Db.ChangeSet
import SqlBind.Proofs.Db.Recording
import SqlBind.Proofs.Db.Runs
import SqlBind.Proofs.Db.Session
import SqlBind.Proofs.Db.Staging
import SqlBind.Proofs.Db.Tracing
import SqlBind.Proofs.Decimal.Text
import SqlBind.Proofs.Effect
import SqlBind.Proofs.Identifier.Grammar
import SqlBind.Proofs.Identifier.Reading
import SqlBind.Proofs.Identifier.Tokens
import SqlBind.Proofs.Json.Document
import SqlBind.Proofs.Json.Rounded
import SqlBind.Proofs.Log
import SqlBind.Proofs.Number.Digits
import SqlBind.Proofs.Number.Nearest
import SqlBind.Proofs.Placeholder.Cursor
import SqlBind.Proofs.Placeholder.Reading
import SqlBind.Proofs.Placeholder.Rendering
import SqlBind.Proofs.Placeholder.Splitting
import SqlBind.Proofs.Placeholder.Token
import SqlBind.Proofs.Postgres.Coercion
import SqlBind.Proofs.Postgres.ColumnTag
import SqlBind.Proofs.Postgres.Documents
import SqlBind.Proofs.Postgres.Ending
import SqlBind.Proofs.Postgres.Null
import SqlBind.Proofs.Postgres.Outputs
import SqlBind.Proofs.Postgres.PageBounds
import SqlBind.Proofs.Postgres.Paging
import SqlBind.Proofs.Postgres.RoundTrip
import SqlBind.Proofs.Postgres.Scalar
import SqlBind.Proofs.Postgres.Splices
import SqlBind.Proofs.Postgres.Transact
import SqlBind.Proofs.Postgres.Watched
import SqlBind.Proofs.Scope
import SqlBind.Proofs.Template.Binds
import SqlBind.Proofs.Template.Colons
import SqlBind.Proofs.Template.Fault
import SqlBind.Proofs.Template.Grammar
import SqlBind.Proofs.Template.Outline
import SqlBind.Proofs.Template.Watch
import SqlBind.Proofs.Text.Pieces
import SqlBind.Proofs.TwoRuns
import SqlBind.Proofs.Write.Alignment
import SqlBind.Proofs.Write.Build
import SqlBind.Proofs.Write.Guard
import SqlBind.Proofs.Write.Reading
import SqlBind.Proofs.Write.Syntax
import SqlBind.Proofs.Write.Tree
import SqlBind.Proofs.Write.Upsert
import SqlBind.Row
import SqlBind.Scope
import SqlBind.SqlType
import SqlBind.Statement
import SqlBind.Statement.Cursor
import SqlBind.Statement.Placeholder
import SqlBind.Template
import SqlBind.Template.Expression
import SqlBind.Template.Named
import SqlBind.Text.Ascii
import SqlBind.Text.Blank
import SqlBind.Text.Hex
import SqlBind.Text.Quote
import SqlBind.Text.Unprinted
import SqlBind.Transport
import SqlBind.Uuid
import SqlBind.Value
import SqlBind.Write.Basic
import SqlBind.Write.Delete
import SqlBind.Write.Insert
import SqlBind.Write.Merge
import SqlBind.Write.Update
