import SqlDialect.ClickHouse.Generator
import SqlDialect.Connection.Basic
/-!
# ClickHouse's catalog

What a server holds is asked of the tables of its database `system`. Names are sent as parameters,
never as a part of the text of a query. Apart from listing databases, every question is about the
database of the connection.

A failed query or a row that does not hold what is expected is an error of the operation, except
for the version of the server and the indexes of a table, which are then unknown and none.
-/

namespace SqlDialect.ClickHouse.Catalog

/-- The database of a connection that names none. -/
def defaultDatabase : String := "default"

/-- The databases that a server makes for itself. -/
def systemDatabases : List String := ["system", "information_schema", "INFORMATION_SCHEMA"]

/-! ### Queries -/

def versionQuery : String := "SELECT version() AS version"

def databasesQuery : String :=
  "SELECT name FROM system.databases " ++
    "WHERE name NOT IN ('system', 'information_schema', 'INFORMATION_SCHEMA') " ++
    "ORDER BY name"

/-- Asks for all tables, or for some of them if their number is not zero. -/
def tablesQuery (names : Nat) : String :=
  "SELECT name, comment, engine, total_rows, total_bytes FROM system.tables " ++
    "WHERE database = ? AND is_temporary = 0" ++
    (if names = 0 then ""
      else " AND name IN (" ++ ", ".intercalate (List.replicate names "?") ++ ")") ++
    " ORDER BY name"

def columnsQuery : String :=
  "SELECT name, type, comment, is_in_primary_key, default_expression " ++
    "FROM system.columns WHERE database = ? AND table = ? ORDER BY position"

def primaryKeyQuery : String :=
  "SELECT primary_key FROM system.tables WHERE database = ? AND name = ?"

def indexesQuery : String :=
  "SELECT name, type, expr FROM system.data_skipping_indices " ++
    "WHERE database = ? AND table = ? ORDER BY name"

def definitionQuery : String :=
  "SELECT create_table_query FROM system.tables WHERE database = ? AND name = ?"

/-! ### Rows -/

def versionOf? (r : Row) : Option String :=
  match r.decodeString? "version" with
  | .ok version => nonEmpty? version
  | .error _ => none

def tableOf (r : Row) : Except DbError Table := do
  let tableName ← r.decodeString "name"
  let comment ← r.decodeString? "comment"
  let engine ← r.decodeString? "engine"
  let totalRows ← r.decodeCount? "total_rows"
  let totalBytes ← r.decodeCount? "total_bytes"
  return ⟨tableName, nonEmpty? comment, nonEmpty? engine, totalRows, totalBytes⟩

/-- The column of a table that a row describes, with its type normalized. -/
def columnOf (table : String) (r : Row) : Except DbError Column := do
  let columnName ← r.decodeString "name"
  let dataType ← r.decodeString "type"
  let comment ← r.decodeString? "comment"
  let isPrimaryKey ← r.decodeFlag "is_in_primary_key"
  let defaultValue ← r.decodeString? "default_expression"
  return normalizeColumn {
    tableName := table, columnName, dataType, comment := nonEmpty? comment, isPrimaryKey
    defaultValue := nonEmpty? defaultValue }

def indexOf (r : Row) : Except DbError Index := do
  let indexName ← r.decodeString "name"
  let indexType ← r.decodeString? "type"
  let comment ← r.decodeString? "expr"
  return ⟨indexName, (nonEmpty? indexType).getD "INDEX", nonEmpty? comment⟩

/-- The names of databases in order, without those the server makes for itself. -/
def userDatabases (names : List String) : List String :=
  (names.filter fun name => !systemDatabases.contains name).mergeSort fun a b => !(b < a)

/-- The first of the pieces between commas that holds more than blanks. -/
def firstKey? (declared : String) : Option String :=
  (((Text.splitOn ',' declared.toList).map Text.trimChars).find? (!·.isEmpty)).map String.ofList

/-! ### Operations -/

variable {σ : Type} (c : Connection σ)

/-- The server and its version, as far as it is known. -/
def server : Action σ Server := do
  match ← (c.query versionQuery []).settled with
  | .error _ => return .unknown engine
  | .ok result =>
    match result.rows.head?.bind versionOf? with
    | some version => return ⟨engine, version⟩
    | none => return .unknown engine

def databases : Action σ (List String) := do
  let result ← c.query databasesQuery []
  let names ← Action.ofExcept (result.rows.mapM (·.decodeString "name"))
  return userDatabases names

/-- The names of the schemas, which are the databases. -/
def schemas : Action σ (List String) := databases c

/-- The tables of these names, or all tables if no name is given. -/
def tables (names : List String) : Action σ (List Table) := do
  let result ← c.query (tablesQuery names.length)
    (.string c.database :: names.map Cell.string)
  Action.ofExcept (result.rows.mapM tableOf)

/-- The columns of the first table named. -/
def columns : (names : List String) → Action σ (List Column)
  | [] => pure []
  | table :: _ => do
    let result ← c.query columnsQuery [.string c.database, .string table]
    Action.ofExcept (result.rows.mapM (columnOf table))

def declaredKey? (result : ResultSet) : Except DbError (Option String) :=
  match result.rows.head? with
  | none => .ok none
  | some row => (row.decodeString? "primary_key").map fun key => firstKey? (key.getD "")

/-- The first part of the primary key of a table; without a primary key its first column. -/
def primaryKey (table : String) : Action σ (Option String) := do
  let result ← c.query primaryKeyQuery [.string c.database, .string table]
  match ← Action.ofExcept (declaredKey? result) with
  | some key => return some key
  | none =>
    let cs ← columns c [table]
    return cs.head?.map (·.columnName)

def indexes (table : String) : Action σ (List Index) := do
  match ← (c.query indexesQuery [.string c.database, .string table]).settled with
  | .error _ => return []
  | .ok result =>
    match result.rows.mapM indexOf with
    | .ok found => return found
    | .error _ => return []

/-- The definition that a result holds, or an empty text. -/
def definitionOf (result : ResultSet) : Except DbError String :=
  match result.rows.head? with
  | none => .ok ""
  | some row => (row.decodeString? "create_table_query").map (·.getD "")

/-- The definition of a table, perhaps after a statement that drops it. -/
def tableDefinition (table : String) (drop : Bool) : Action σ String := do
  let result ← c.query definitionQuery [.string c.database, .string table]
  let ddl ← Action.ofExcept (definitionOf result)
  return if drop && ddl != "" then dropTable table ++ ";\n" ++ ddl else ddl

end SqlDialect.ClickHouse.Catalog
