import SqlDialect.ClickHouse.Catalog
import SqlDialect.ClickHouse.Client
import SqlDialect.ClickHouse.Dialect
import SqlDialect.Registry
/-!
# ClickHouse in the registry

What the engine contributes, the registry that holds all engines of the library, and the texts by
which objects bound to a connection are shown.
-/

namespace SqlDialect.ClickHouse

variable {τ : Type}

/-- What a server of the engine can be asked. -/
def catalog : Catalog (Line τ) where
  defaultDatabase := Catalog.defaultDatabase
  server := Catalog.server
  databases := Catalog.databases
  schemas := Catalog.schemas
  tables := Catalog.tables
  columns := Catalog.columns
  primaryKey := Catalog.primaryKey
  indexes := Catalog.indexes
  tableDefinition := Catalog.tableDefinition

def bundle (transport : Transport τ) : Bundle (Line τ) where
  engine := engine
  types := types
  placement := placement
  provider := provider transport
  dialect := dialect
  catalog := catalog

/-- The registry with every engine of the library. -/
def defaultRegistry (transport : Transport τ) : Registry (Line τ) :=
  match Registry.empty.register (bundle transport) with
  | .ok r => r
  | .error _ => .empty

/-- An object of a type as it is shown, with the database it is bound to. -/
def boundText (type database : String) : String :=
  type ++ " \x7b database: " ++ Text.inspect database ++ " \x7d"

def connectionText (database : String) (closed : Bool) : String :=
  "ClickHouseConnection \x7b database: " ++ Text.inspect database ++ ", closed: " ++
    (if closed then "true" else "false") ++ " \x7d"

/-- The texts of dialect and catalog over a connection. -/
def sessionTexts (database : String) : List String :=
  [boundText "ClickHouseDialect" database, boundText "ClickHouseMetadata" database]

end SqlDialect.ClickHouse
