import SqlDialect.Config.Basic
import SqlDialect.Error
import SqlDialect.Toml.Reader
/-!
# Connection settings from text

Settings are kept in TOML files: one key for each field, and a table of parameters.
-/

namespace SqlDialect.ConnectionConfig

def ofToml (s : String) : Except DbError ConnectionConfig :=
  match (Toml.read? s).bind ofJson? with
  | some c => .ok c
  | none => .error .invalidConfig

end SqlDialect.ConnectionConfig
