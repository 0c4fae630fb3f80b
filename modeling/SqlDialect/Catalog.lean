import SqlDialect.Connection.Basic
import SqlDialect.Schema.Basic
/-!
# Catalogs

A `Catalog` gathers what the servers of an engine can be asked about what they hold. Every question
but the one for the default database is asked over a connection.
-/

namespace SqlDialect

/-- What servers of one engine, whose state is in `σ`, can be asked. -/
structure Catalog (σ : Type) where
  /-- The database of a connection that names none. -/
  defaultDatabase : String
  server : Connection σ → Action σ Server
  databases : Connection σ → Action σ (List String)
  schemas : Connection σ → Action σ (List String)
  /-- The tables of these names, or all. -/
  tables : Connection σ → (names : List String) → Action σ (List Table)
  /-- The columns of the first table named. -/
  columns : Connection σ → (names : List String) → Action σ (List Column)
  primaryKey : Connection σ → (table : String) → Action σ (Option String)
  indexes : Connection σ → (table : String) → Action σ (List Index)
  /-- The statement that defines a table, perhaps after one that drops it. -/
  tableDefinition : Connection σ → (table : String) → (drop : Bool) → Action σ String

end SqlDialect
