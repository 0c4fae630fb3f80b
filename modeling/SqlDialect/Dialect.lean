import SqlDialect.Connection.Basic
import SqlDialect.Dump
import SqlDialect.Sql.Lexer
/-!
# Dialects

A `Dialect` gathers what an engine says about its SQL: quotes, statements, the frame of a dump, the
grammar, and how tables are copied and loaded. It needs a connection only to copy a table.
-/

namespace SqlDialect

/-- What an engine says about its SQL. -/
structure Dialect where
  engine : String
  quoting : Quoting
  generator : Generator
  dumpHelper : DumpHelper := {}
  grammar : Sql.Grammar
  /-- The statements that copy a table. -/
  copyStatements : CopyRequest → Except DbError (List String) :=
    fun request => .error (.cannotCopy engine request.tableName)
  /-- How many rows one insert should hold when many are loaded. -/
  batchSize : Nat := 1000
  /-- The statements to be executed after many rows have been loaded into a table. -/
  afterLoad : (table : String) → List String := fun _ => []

def Dialect.copyTable {σ : Type} (d : Dialect) (c : Connection σ) (request : CopyRequest) :
    Action σ Unit := do
  let statements ← Action.ofExcept (d.copyStatements request)
  let _ ← c.executeBatch statements

end SqlDialect
