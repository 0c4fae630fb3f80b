/-!
# Errors

What can go wrong, by the layer that reports it, and the one text for each. The causes that the
library itself reports have names below; a connection may report any error with a text of its own.
-/

namespace SqlDialect

/-- A failure of any operation of the library. -/
inductive DbError
  /-- The server cannot be reached or used. -/
  | connection (detail : String)
  /-- A statement cannot be read, or the server refuses it. -/
  | query (detail : String)
  | configuration (detail : String)
  /-- An engine has been registered before. -/
  | duplicateRegistration (engine : String)
  /-- A type text names no type of the engine. -/
  | unknownDataType (engine name : String)
  /-- A column of a result row does not hold what is asked for. -/
  | decode (column expected found : String)
  | io (detail : String)
  /-- A text is no JSON text, or not one of the type asked for. -/
  | serialization
  | notSupported (detail : String)
  | notFound (detail : String)
  | other (detail : String)
  deriving DecidableEq, Repr

namespace DbError

def message : DbError → String
  | connection detail => "Connection error: " ++ detail
  | query detail => "Query error: " ++ detail
  | configuration detail => "Configuration error: " ++ detail
  | duplicateRegistration engine => "Engine already registered: " ++ engine
  | unknownDataType engine name => "Unknown " ++ engine ++ " data type: " ++ name
  | decode column expected found =>
    "Cannot decode column '" ++ column ++ "': expected " ++ expected ++ ", found " ++ found
  | io detail => "IO error: " ++ detail
  | serialization => "Serialization error"
  | notSupported detail => "Not supported: " ++ detail
  | notFound detail => "Not found: " ++ detail
  | other detail => detail

/-- Whether the connection reported the error, and not this library. -/
def isConnectivity : DbError → Bool
  | connection _ | query _ => true
  | _ => false

/-! ### Causes -/

/-- Rows are to be inserted and no column is named. -/
def noColumns (table : String) : DbError :=
  other ("cannot insert into " ++ table ++ " without columns")

/-- A row has more or fewer values than there are columns. -/
def rowWidth (index values columns : Nat) : DbError :=
  other ("row " ++ toString index ++ " has " ++ toString values ++ " values but " ++
    toString columns ++ " columns")

/-- More or fewer values than columns are to be assigned. -/
def valueCount (columns values : Nat) : DbError :=
  other (toString columns ++ " columns but " ++ toString values ++ " values")

def closed : DbError := connection "Connection is closed"

def arrayParameter : DbError :=
  notSupported "array values cannot be bound as query parameters"

/-- A script is not a list of statements. -/
def unreadableScript : DbError := query "Failed to parse SQL"

/-- A text does not begin with an expression. -/
def unreadableExpression : DbError := query "Failed to parse expression"

/-- A text goes on after an expression. -/
def trailingToken (token : String) : DbError :=
  query ("Unexpected " ++ token ++ " after expression")

/-- A configuration text is malformed or lacks a field. -/
def invalidConfig : DbError := configuration "invalid connection config"

def unknownEngine (engine : String) : DbError := notFound ("engine '" ++ engine ++ "'")

/-- An engine has no statement that duplicates a table. -/
def cannotCopy (engine table : String) : DbError :=
  notSupported (engine ++ " cannot copy table '" ++ table ++ "'")

/-- A writer takes no further byte. -/
def writerFull : DbError := io "writer full"

end DbError

end SqlDialect
