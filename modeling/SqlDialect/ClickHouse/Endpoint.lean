import SqlDialect.Config.Basic
/-!
# ClickHouse servers

An `Endpoint` is what the settings of a connection say about a server, with defaults for what they
leave out. Parameters that say nothing about the server itself are sent to it with every request.
-/

namespace SqlDialect.ClickHouse

/-- Where a server listens and who asks. -/
structure Endpoint where
  host : String
  port : Nat
  database : String
  username : String
  /-- Empty if there is none. -/
  password : String
  secure : Bool
  deriving DecidableEq, Repr

/-- The port a server listens at unless it is told another. -/
def defaultPort : Nat := 8123

/-- The user who asks if none is named. -/
def defaultUser : String := "default"

/-- A text, or a default if it is missing or empty. -/
def orDefault (default : String) (s : Option String) : String := (s.filter (· != "")).getD default

namespace Endpoint

/-- The server that settings describe. -/
def ofConfig (c : ConnectionConfig) : Endpoint where
  host := orDefault "localhost" (c.getString? "host")
  port := if c.port = 0 then defaultPort else c.port.toNat
  database := orDefault "default" c.database
  username := orDefault defaultUser c.username
  password := c.password.getD ""
  secure := c.getFlag "ssl"

/-- The protocol by which the server is asked. -/
def scheme (e : Endpoint) : String := if e.secure then "https" else "http"

def address (e : Endpoint) : String := e.host ++ ":" ++ toString e.port

/-- The address with its protocol, as a client is told it. -/
def serverUrl (e : Endpoint) : String := e.scheme ++ "://" ++ e.address

/-- Who asks, as it stands before the address. The default user without a password is left out. -/
def credentials (e : Endpoint) : String :=
  if e.password = "" then (if e.username = defaultUser then "" else e.username ++ "@")
  else e.username ++ ":" ++ e.password ++ "@"

def text (e : Endpoint) : String :=
  e.scheme ++ "://" ++ e.credentials ++ e.address ++ "/" ++ e.database

end Endpoint

def reservedParams : List String := ["host", "ssl", "database", "username", "user", "password"]

/-- The settings that are sent to the server, in order of their names. -/
def serverSettings (p : Params) : List (String × String) :=
  p.sorted.filter fun e => !reservedParams.contains e.1

end SqlDialect.ClickHouse
