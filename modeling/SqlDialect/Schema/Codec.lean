import SqlDialect.Category
import SqlDialect.Json.Decode
import SqlDialect.ResultSet
import SqlDialect.Schema.Basic
/-!
# Schema descriptors as JSON

A descriptor is written as an object with all of its fields in order, and read back from one in
which the fields with a default may be left out.
-/

namespace SqlDialect

/-- A string that may be missing. -/
def Json.ofOption (s : Option String) : Json := (s.map Json.string).getD .null

/-- A counter that may be missing. -/
def Json.ofCount (n : Option UInt64) : Json := (n.map fun n => .nat n.toNat).getD .null

/-- A field with a string that may be missing. -/
def Json.maybeString : Option Json → Option (Option String) :=
  Json.optional none (Json.nullable Json.string?)

/-- A field with a counter that may be missing. -/
def Json.maybeCount : Option Json → Option (Option UInt64) :=
  Json.optional none (Json.nullable Json.uint64?)

/-- A field with a flag that is not set unless it is there. -/
def Json.flag : Option Json → Option Bool := Json.optional false Json.bool?

namespace Column

def fieldNames : List String :=
  ["table_name", "column_name", "data_type", "comment", "nullable", "is_primary_key",
    "default_value", "auto_increment"]

def toJson (c : Column) : Json :=
  .object [("table_name", .string c.tableName), ("column_name", .string c.columnName),
    ("data_type", .string c.dataType), ("comment", .ofOption c.comment),
    ("nullable", .bool c.nullable), ("is_primary_key", .bool c.isPrimaryKey),
    ("default_value", .ofOption c.defaultValue), ("auto_increment", .bool c.autoIncrement)]

def ofJson? (j : Json) : Option Column := do
  match ← j.record? fieldNames with
  | [table, column, type, comment, nullable, key, default, auto] =>
    some {
      tableName := ← Json.required Json.string? table
      columnName := ← Json.required Json.string? column
      dataType := ← Json.required Json.string? type
      comment := ← Json.maybeString comment
      nullable := ← Json.flag nullable
      isPrimaryKey := ← Json.flag key
      defaultValue := ← Json.maybeString default
      autoIncrement := ← Json.flag auto }
  | _ => none

end Column

namespace Table

def fieldNames : List String := ["table_name", "comment", "engine", "total_rows", "total_bytes"]

def toJson (t : Table) : Json :=
  .object [("table_name", .string t.tableName), ("comment", .ofOption t.comment),
    ("engine", .ofOption t.engine), ("total_rows", .ofCount t.totalRows),
    ("total_bytes", .ofCount t.totalBytes)]

def ofJson? (j : Json) : Option Table := do
  match ← j.record? fieldNames with
  | [name, comment, engine, rows, bytes] =>
    some {
      tableName := ← Json.required Json.string? name
      comment := ← Json.maybeString comment
      engine := ← Json.maybeString engine
      totalRows := ← Json.maybeCount rows
      totalBytes := ← Json.maybeCount bytes }
  | _ => none

end Table

namespace Index

def fieldNames : List String := ["index_name", "index_type", "comment"]

def toJson (i : Index) : Json :=
  .object [("index_name", .string i.indexName), ("index_type", .string i.indexType),
    ("comment", .ofOption i.comment)]

def ofJson? (j : Json) : Option Index := do
  match ← j.record? fieldNames with
  | [name, type, comment] =>
    some {
      indexName := ← Json.required Json.string? name
      indexType := ← Json.required Json.string? type
      comment := ← Json.maybeString comment }
  | _ => none

end Index

def Server.ofJson? (j : Json) : Option Server := do
  match ← j.record? ["engine", "version"] with
  | [engine, version] =>
    some ⟨← Json.required Json.string? engine, ← Json.required Json.string? version⟩
  | _ => none

namespace CopyRequest

def fieldNames : List String := ["table_name", "new_table_name", "copy_data"]

def toJson (r : CopyRequest) : Json :=
  .object [("table_name", .string r.tableName), ("new_table_name", .string r.newTableName),
    ("copy_data", .bool r.copyData)]

def ofJson? (j : Json) : Option CopyRequest := do
  match ← j.record? fieldNames with
  | [table, new, data] =>
    some {
      tableName := ← Json.required Json.string? table
      newTableName := ← Json.required Json.string? new
      copyData := ← Json.flag data }
  | _ => none

end CopyRequest

namespace ColumnInfo

def toJson (c : ColumnInfo) : Json :=
  .object [("name", .string c.name), ("data_type", .string c.dataType),
    ("nullable", .bool c.nullable), ("ordinal", .nat c.ordinal.toNat)]

/-- The result column that a JSON value describes. -/
def ofJson? (j : Json) : Option ColumnInfo := do
  match ← j.record? ["name", "data_type", "nullable", "ordinal"] with
  | [name, type, nullable, ordinal] =>
    some {
      name := ← Json.optional "" Json.string? name
      dataType := ← Json.optional "" Json.string? type
      nullable := ← Json.flag nullable
      ordinal := ← Json.optional 0 Json.uint64? ordinal }
  | _ => none

end ColumnInfo

namespace DuplicateStrategy

def word : DuplicateStrategy → String
  | none => "none"
  | ignore => "ignore"
  | update => "update"

def ofWord? (s : String) : Option DuplicateStrategy :=
  [none, ignore, update].find? fun (d : DuplicateStrategy) => d.word == s

def ofJson? (j : Json) : Option DuplicateStrategy := j.choiceName?.bind ofWord?

end DuplicateStrategy

def Category.ofJson? (j : Json) : Option Category := j.choiceName?.bind Category.ofName?

def LogicalKind.ofJson? (j : Json) : Option LogicalKind := j.choiceName?.bind LogicalKind.ofName?

end SqlDialect
