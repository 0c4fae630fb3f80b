import SqlDialect.Cell.Literal
import SqlDialect.Identifier
import SqlDialect.NativeType.Conversion
/-!
# ClickHouse's vocabulary

The types of the engine, where columns of other engines are placed among them, and how identifiers
and values are written: every identifier between backquotes, truth values as numbers, and a
backslash as an escape inside quotes.
-/

namespace SqlDialect.ClickHouse

def engine : String := "clickhouse"

/-- The types by name, with category and kind. -/
def nativeTypes : List NativeType := [
  ⟨"UInt8", .int1, .unsignedInt1⟩,
  ⟨"UInt16", .int2, .unsignedInt2⟩,
  ⟨"UInt32", .int4, .unsignedInt4⟩,
  ⟨"UInt64", .int8, .unsignedInt8⟩,
  ⟨"Int8", .int1, .int1⟩,
  ⟨"Int16", .int2, .int2⟩,
  ⟨"Int32", .int4, .int4⟩,
  ⟨"Int64", .int8, .int8⟩,
  ⟨"Float32", .numeric, .numeric⟩,
  ⟨"Float64", .numeric, .numeric⟩,
  ⟨"String", .string, .varchar⟩,
  ⟨"FixedString", .string, .char⟩,
  ⟨"DateTime", .dateTime, .datetime⟩,
  ⟨"DateTime64", .dateTime, .datetime⟩,
  ⟨"Date", .date, .date⟩,
  ⟨"Date32", .date, .date⟩,
  ⟨"UUID", .string, .varchar⟩,
  ⟨"IPv4", .string, .varchar⟩,
  ⟨"IPv6", .string, .varchar⟩,
  ⟨"Bool", .bool, .bool⟩,
  ⟨"Decimal", .decimal, .decimal⟩,
  ⟨"Decimal32", .decimal, .decimal⟩,
  ⟨"Decimal64", .decimal, .decimal⟩,
  ⟨"Decimal128", .decimal, .decimal⟩,
  ⟨"Decimal256", .decimal, .decimal⟩,
  ⟨"Enum8", .string, .enum⟩,
  ⟨"Enum16", .string, .enum⟩,
  ⟨"Array", .string, .varchar⟩,
  ⟨"Tuple", .string, .varchar⟩,
  ⟨"Map", .string, .varchar⟩,
  ⟨"Nested", .string, .varchar⟩,
  ⟨"AggregateFunction", .string, .varchar⟩,
  ⟨"SimpleAggregateFunction", .string, .varchar⟩,
  ⟨"LowCardinality", .string, .varchar⟩,
  ⟨"Nullable", .string, .varchar⟩]

def types : TypeTable := .ofList engine nativeTypes

/-- The type on which a column of a kind is placed. Texts, bytes, documents and enumerations, whose
values a kind does not carry, all become strings. -/
def placement : Placement
  | .char => ⟨"FixedString", .string, .char⟩
  | .int1 => ⟨"Int8", .int1, .int1⟩
  | .int2 => ⟨"Int16", .int2, .int2⟩
  | .int4 => ⟨"Int32", .int4, .int4⟩
  | .int8 => ⟨"Int64", .int8, .int8⟩
  | .unsignedInt1 | .bit => ⟨"UInt8", .int1, .unsignedInt1⟩
  | .unsignedInt2 => ⟨"UInt16", .int2, .unsignedInt2⟩
  | .unsignedInt4 => ⟨"UInt32", .int4, .unsignedInt4⟩
  | .unsignedInt8 => ⟨"UInt64", .int8, .unsignedInt8⟩
  | .decimal => ⟨"Decimal", .decimal, .decimal⟩
  | .numeric => ⟨"Float64", .numeric, .numeric⟩
  | .bool => ⟨"Bool", .bool, .bool⟩
  | .date => ⟨"Date", .date, .date⟩
  | .time | .datetime | .timestamp => ⟨"DateTime", .dateTime, .datetime⟩
  | .varchar | .text | .mediumtext | .longtext | .binary | .varbinary | .blob | .mediumblob
  | .longblob | .enum | .json => ⟨"String", .string, .varchar⟩

/-- Backquotes around every identifier. -/
def quoting : Quoting := ⟨'\x60', '\x60', .always, true⟩

/-- Numbers for truth values, and bare words for floating point values that are no numbers. -/
def literals : LiteralStyle := ⟨"1", "0", true, "nan", "inf", "-inf"⟩

end SqlDialect.ClickHouse
