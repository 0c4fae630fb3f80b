import SqlDialect.Calendar.Basic
import SqlDialect.Calendar.Reader
import SqlDialect.Catalog
import SqlDialect.Category
import SqlDialect.Cell.Basic
import SqlDialect.Cell.Codec
import SqlDialect.Cell.Literal
import SqlDialect.ClickHouse.Bundle
import SqlDialect.ClickHouse.Catalog
import SqlDialect.ClickHouse.Client
import SqlDialect.ClickHouse.Dialect
import SqlDialect.ClickHouse.Endpoint
import SqlDialect.ClickHouse.Generator
import SqlDialect.ClickHouse.JsonRows
import SqlDialect.ClickHouse.Template
import SqlDialect.ClickHouse.Types
import SqlDialect.ClickHouse.Wrapper
import SqlDialect.Config.Basic
import SqlDialect.Config.Text
import SqlDialect.Connection.Basic
import SqlDialect.Connection.Provider
import SqlDialect.Connection.Scripted
import SqlDialect.Decimal.Binary
import SqlDialect.Decimal.Power
import SqlDialect.Decimal.Shortest
import SqlDialect.Dialect
import SqlDialect.Dump
import SqlDialect.Error
import SqlDialect.Generator.Basic
import SqlDialect.Identifier
import SqlDialect.Json.Basic
import SqlDialect.Json.Decode
import SqlDialect.Json.Printer
import SqlDialect.Json.Reader
import SqlDialect.NativeType.Basic
import SqlDialect.NativeType.Conversion
import SqlDialect.Proofs.Identifier.Safety
import SqlDialect.Proofs.Text.Numeral
import SqlDialect.Proofs.Text.Quoted
import SqlDialect.Registry
import SqlDialect.ResultSet
import SqlDialect.Schema.Basic
import SqlDialect.Schema.Codec
import SqlDialect.Sql.Keyword
import SqlDialect.Sql.Lexer
import SqlDialect.Sql.Printer
import SqlDialect.Sql.Quoted
import SqlDialect.Sql.Reader.Alteration
import SqlDialect.Sql.Reader.Basic
import SqlDialect.Sql.Reader.Call
import SqlDialect.Sql.Reader.Column
import SqlDialect.Sql.Reader.Command
import SqlDialect.Sql.Reader.Copy
import SqlDialect.Sql.Reader.DataType
import SqlDialect.Sql.Reader.Definition
import SqlDialect.Sql.Reader.Expr
import SqlDialect.Sql.Reader.JsonTable
import SqlDialect.Sql.Reader.Operator
import SqlDialect.Sql.Reader.Property
import SqlDialect.Sql.Reader.Query
import SqlDialect.Sql.Reader.Routine
import SqlDialect.Sql.Reader.RowPattern
import SqlDialect.Sql.Reader.Session
import SqlDialect.Sql.Reader.Source
import SqlDialect.Sql.Reader.Statement
import SqlDialect.Sql.Reader.Storage
import SqlDialect.Sql.Reader.Time
import SqlDialect.Sql.Script
import SqlDialect.Sql.Token
import SqlDialect.Sql.Tree
import SqlDialect.Text.Blank
import SqlDialect.Text.Inspect
import SqlDialect.Text.Letter
import SqlDialect.Text.Number
import SqlDialect.Text.Utf8
import SqlDialect.Toml.Document
import SqlDialect.Toml.Reader
import SqlDialect.Uuid
import SqlDialect.Proofs.Cell.Term
import SqlDialect.Proofs.Cell.Literal
import SqlDialect.Proofs.Text.TopLevel
import SqlDialect.Proofs.ClickHouse.Insert
import SqlDialect.Proofs.ClickHouse.Replace
import SqlDialect.Proofs.ClickHouse.TypeText
import SqlDialect.Proofs.Dump.Script
import SqlDialect.Proofs.Dump.Truncation
import SqlDialect.Proofs.Dump.Batches
import SqlDialect.Proofs.Dump.Outcome
import SqlDialect.Proofs.Identifier.Qualified
import SqlDialect.Proofs.Sql.Effects
import SqlDialect.Proofs.ClickHouse.Question
import SqlDialect.Proofs.ClickHouse.Batch
import SqlDialect.Proofs.ClickHouse.Definition
import SqlDialect.Proofs.Recording
import SqlDialect.Proofs.Registry
import SqlDialect.Proofs.ClickHouse.Endpoint
import SqlDialect.Proofs.Text.Utf8
import SqlDialect.Proofs.ClickHouse.Parameter
import SqlDialect.Proofs.Json.Number
import SqlDialect.Proofs.Json.RoundTrip
import SqlDialect.Proofs.Text.Lines
import SqlDialect.Proofs.Text.Trim
import SqlDialect.Proofs.ClickHouse.JsonRows
import SqlDialect.Proofs.Identifier.Path
import SqlDialect.Proofs.ClickHouse.DropTable
import SqlDialect.Proofs.ClickHouse.PrimaryKey
import SqlDialect.Proofs.ClickHouse.DecimalType
import SqlDialect.Proofs.Cell.Number
import SqlDialect.Proofs.Cell.Bytes
import SqlDialect.Proofs.ClickHouse.WrappedColumn
import SqlDialect.Proofs.ClickHouse.KeyList
import SqlDialect.Proofs.Text.Integer
import SqlDialect.Proofs.Cell.Integer
import SqlDialect.Proofs.ClickHouse.Counter
import SqlDialect.Proofs.ClickHouse.InsertFault
import SqlDialect.Proofs.Text.Conjunction
import SqlDialect.Proofs.Filter
import SqlDialect.Proofs.ClickHouse.Conversion
import SqlDialect.Proofs.ClickHouse.Peeling
import SqlDialect.Proofs.ClickHouse.NormalForm
import SqlDialect.Proofs.ClickHouse.MatchedWrapper
import SqlDialect.Proofs.ClickHouse.NullableNesting
import SqlDialect.Proofs.TypeTable
import SqlDialect.Proofs.Text.ByteOrder
import SqlDialect.Proofs.ClickHouse.DatabaseList
import SqlDialect.Proofs.Connection.AffectedRows
import SqlDialect.Proofs.Connection.Release
import SqlDialect.Proofs.ClickHouse.Template
import SqlDialect.Proofs.ClickHouse.Traffic
import SqlDialect.Proofs.ClickHouse.Session
import SqlDialect.Proofs.ClickHouse.ServerSettings
import SqlDialect.Proofs.Calendar.Written
import SqlDialect.Proofs.Cell.Temporal
import SqlDialect.Proofs.Identifier.Segments
import SqlDialect.Proofs.Identifier.Pairs
import SqlDialect.Proofs.ClickHouse.EndpointText
import SqlDialect.Proofs.Uuid
import SqlDialect.Proofs.Calendar.ReadBack
import SqlDialect.Proofs.Json.Decode
import SqlDialect.Proofs.Cell.Codec
import SqlDialect.Proofs.Schema.Codec
