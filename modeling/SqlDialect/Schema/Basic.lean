/-!
# Schema descriptors

What introspection finds and what statements are made from: columns, tables, indexes, servers, and
the request to duplicate a table. Fields that an engine may not report are options.
-/

namespace SqlDialect

structure Column where
  tableName : String
  columnName : String
  /-- The native type with its parameters. -/
  dataType : String
  comment : Option String := none
  nullable : Bool := false
  isPrimaryKey : Bool := false
  /-- The text of the default expression. -/
  defaultValue : Option String := none
  autoIncrement : Bool := false
  deriving DecidableEq, Repr

namespace Column

def asPrimaryKey (c : Column) : Column := { c with isPrimaryKey := true }

/-- The same column with NULL allowed. -/
def asNullable (c : Column) : Column := { c with nullable := true }

def withComment (c : Column) (comment : String) : Column := { c with comment := some comment }

end Column

structure Table where
  tableName : String
  comment : Option String := none
  /-- The storage engine. -/
  engine : Option String := none
  totalRows : Option UInt64 := none
  totalBytes : Option UInt64 := none
  deriving DecidableEq, Repr

def Table.withComment (t : Table) (comment : String) : Table := { t with comment := some comment }

structure Index where
  indexName : String
  indexType : String
  comment : Option String := none
  deriving DecidableEq, Repr

structure Server where
  engine : String
  version : String
  deriving DecidableEq, Repr

namespace Server

/-- The version of a server that does not tell it. -/
def unknownVersion : String := "unknown"

def unknown (engine : String) : Server := ⟨engine, unknownVersion⟩

def isUnknown (s : Server) : Bool := s.version == unknownVersion

end Server

/-- A table to be duplicated. -/
structure CopyRequest where
  tableName : String
  newTableName : String
  /-- Whether the rows are copied too. -/
  copyData : Bool := false
  deriving DecidableEq, Repr

/-- What an insert does with rows whose key exists. -/
inductive DuplicateStrategy
  /-- Nothing; the engine decides. -/
  | none
  /-- The new row is dropped. -/
  | ignore
  /-- The new row replaces the old one. -/
  | update
  deriving DecidableEq, Repr

end SqlDialect
