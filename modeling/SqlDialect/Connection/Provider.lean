import SqlDialect.Config.Basic
import SqlDialect.Connection.Basic
/-!
# Providers

A `Provider` opens connections to the servers of one engine. Whether a server can be used is tested
by a query that every engine answers.
-/

namespace SqlDialect

/-- Opens connections to one engine's servers, whose state is in `σ`. -/
structure Provider (σ : Type) where
  engine : String
  /-- The port a server listens at unless it is told another. -/
  defaultPort : Option Nat := none
  connect : ConnectionConfig → Action σ (Connection σ)
  /-- The address of a server as it is shown. -/
  connectionString : ConnectionConfig → String

def probeQuery : String := "SELECT 1"

/-- Opens a connection, sends a query and closes it again. -/
def Provider.testConnection {σ : Type} (p : Provider σ) (config : ConnectionConfig) :
    Action σ Unit := do
  let c ← p.connect config
  let _ ← c.query probeQuery []
  c.close

end SqlDialect
