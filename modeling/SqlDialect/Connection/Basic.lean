import SqlDialect.ResultSet
/-!
# Connections

A `Connection` sends statements and queries to a server of which nothing is known but a state: any
call may fail or answer anything, and may change the state. `executeBatch` sends statements one
after the other up to the first failure.

`Connection.logged` is the same connection with a record of every call.
-/

namespace SqlDialect

/-- What may fail and may change a state. -/
abbrev Action (σ α : Type) := ExceptT DbError (StateM σ) α

namespace Action

variable {σ α : Type}

/-- How an action ends, as a value. -/
def settled (a : Action σ α) : Action σ (Except DbError α) := fun s =>
  let (r, s) := a.run s
  (.ok r, s)

/-- A value or an error that is known already. -/
def ofExcept (r : Except DbError α) : Action σ α := fun s => (r, s)

end Action

/-- An open connection to a server with a state in `σ`. Parameters stand for the question marks of a
statement, in order. -/
structure Connection (σ : Type) where
  driverName : String
  /-- The database that names without a database belong to. -/
  database : String
  execute : (sql : String) → (params : List Cell) → Action σ Outcome
  query : (sql : String) → (params : List Cell) → Action σ ResultSet
  close : Action σ Unit
  isClosed : σ → Bool

inductive Call
  | query (sql : String) (params : List Cell)
  | execute (sql : String) (params : List Cell)
  | close

namespace Connection

variable {σ : Type}

/-- Executes statements in order up to the first that fails, and adds up the rows they change. -/
def executeBatch (c : Connection σ) : (statements : List String) → Action σ UInt64
  | [] => pure 0
  | sql :: rest => do
    let outcome ← c.execute sql []
    let affected ← c.executeBatch rest
    return outcome.affectedRows + affected

/-- An action with a call recorded before it. -/
def recorded {α : Type} (call : Call) (a : Action σ α) : Action (List Call × σ) α :=
  fun (calls, s) =>
    let (r, s) := a.run s
    (r, (calls ++ [call], s))

/-- The same connection, which records every call. -/
def logged (c : Connection σ) : Connection (List Call × σ) where
  driverName := c.driverName
  database := c.database
  execute sql params := recorded (.execute sql params) (c.execute sql params)
  query sql params := recorded (.query sql params) (c.query sql params)
  close := recorded .close c.close
  isClosed s := c.isClosed s.2

end Connection

end SqlDialect
