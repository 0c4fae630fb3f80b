import SqlDialect.ClickHouse.Endpoint
import SqlDialect.ClickHouse.JsonRows
import SqlDialect.ClickHouse.Template
import SqlDialect.ClickHouse.Types
import SqlDialect.Connection.Provider
/-!
# ClickHouse over HTTP

A statement is the body of a request; user, database, format and settings go with it. Nothing is
known of the order of the parameters of an address but that they are all there. An answer with
another status than 200 is an error, and so is one whose body ends with the text of an exception,
since the status is sent before all rows are known.

A connection that is closed sends no request any more.
-/

namespace SqlDialect.ClickHouse

structure Request where
  url : String
  sql : String
  /-- The parameters of the address, in no order that matters. -/
  params : List (String × String)
  user : Option String
  key : Option String

structure Response where
  status : Nat
  body : List UInt8

/-- Sends a request; `none` is a server that cannot be reached. -/
abbrev Transport (τ : Type) := Request → StateM τ (Option Response)

/-- What goes with every request. -/
structure Client where
  url : String := ""
  user : Option String := none
  key : Option String := none
  database : Option String := none
  settings : List (String × String) := []
  /-- How the body of an answer is cut into the chunks in which it arrives. -/
  chunks : (body : List UInt8) → List (List UInt8) := fun body => [body]

/-- A client that asks a server, with no settings yet. -/
def Client.of (e : Endpoint) : Client where
  url := e.serverUrl
  user := some e.username
  key := some e.password
  database := some e.database

/-- The same client with a setting; of two with one name the later one counts. -/
def Client.withOption (c : Client) (name value : String) : Client :=
  { c with settings := Params.putEntry name value c.settings }

def Client.withOptions (c : Client) (settings : List (String × String)) : Client :=
  settings.foldl (fun c s => c.withOption s.1 s.2) c

/-- A request for rows in a format, or for none. -/
def Client.request (c : Client) (sql : String) (format : Option String) : Request where
  url := c.url
  sql := sql
  params :=
    (c.database.map fun d => ("database", d)).toList ++
      (format.map fun f => ("default_format", f)).toList ++ c.settings
  user := c.user
  key := c.key

/-! ### Answers -/

def reasons : List (Nat × String) := [
  (100, "Continue"), (101, "Switching Protocols"), (102, "Processing"), (200, "OK"),
  (201, "Created"), (202, "Accepted"), (203, "Non Authoritative Information"),
  (204, "No Content"), (205, "Reset Content"), (206, "Partial Content"), (207, "Multi-Status"),
  (208, "Already Reported"), (226, "IM Used"), (300, "Multiple Choices"),
  (301, "Moved Permanently"), (302, "Found"), (303, "See Other"), (304, "Not Modified"),
  (305, "Use Proxy"), (307, "Temporary Redirect"), (308, "Permanent Redirect"),
  (400, "Bad Request"), (401, "Unauthorized"), (402, "Payment Required"), (403, "Forbidden"),
  (404, "Not Found"), (405, "Method Not Allowed"), (406, "Not Acceptable"),
  (407, "Proxy Authentication Required"), (408, "Request Timeout"), (409, "Conflict"),
  (410, "Gone"), (411, "Length Required"), (412, "Precondition Failed"),
  (413, "Payload Too Large"), (414, "URI Too Long"), (415, "Unsupported Media Type"),
  (416, "Range Not Satisfiable"), (417, "Expectation Failed"), (418, "I'm a teapot"),
  (421, "Misdirected Request"), (422, "Unprocessable Entity"), (423, "Locked"),
  (424, "Failed Dependency"), (425, "Too Early"), (426, "Upgrade Required"),
  (428, "Precondition Required"), (429, "Too Many Requests"),
  (431, "Request Header Fields Too Large"), (451, "Unavailable For Legal Reasons"),
  (500, "Internal Server Error"), (501, "Not Implemented"), (502, "Bad Gateway"),
  (503, "Service Unavailable"), (504, "Gateway Timeout"), (505, "HTTP Version Not Supported"),
  (506, "Variant Also Negotiates"), (507, "Insufficient Storage"), (508, "Loop Detected"),
  (510, "Not Extended"), (511, "Network Authentication Required")]

def statusText (status : Nat) : String :=
  toString status ++ " " ++ ((reasons.find? (·.1 == status)).map (·.2)).getD "<unknown>"

/-- Why an answer is an error: its body, or its status if the body says nothing. -/
def reasonOf (r : Response) : String :=
  if r.body.isEmpty then statusText r.status
  else
    match Text.Utf8.decode? r.body with
    | some s => String.ofList (Text.trimChars s)
    | none => statusText r.status

/-- From the first place on where a text occurs. -/
def fromFirst? (p : List UInt8) : List UInt8 → Option (List UInt8)
  | [] => none
  | b :: r => if p.isPrefixOf (b :: r) then some (b :: r) else fromFirst? p r

def bytesOf (s : String) : List UInt8 := Text.Utf8.encode s.toList

/-- The exception at the end of a body. -/
def exceptionIn? (body : List UInt8) : Option String :=
  if (bytesOf "))\n").isSuffixOf body then do
    let tail ← fromFirst? (bytesOf "Code:") body
    let _ ← fromFirst? (bytesOf "DB::Exception:") tail
    some (String.ofList (Text.Utf8.decodeLossy tail.dropLast))
  else none

/-- Why a request has no rows to answer with. -/
inductive RequestError
  /-- The statement has too few or too many parameters. -/
  | invalid (reason : String)
  | unreachable
  | refused (reason : String)
  | noRow

def RequestError.message : RequestError → String
  | invalid reason => "invalid params: invalid SQL: " ++ reason
  | unreachable => "network error: client error (Connect)"
  | refused reason => "bad response: " ++ reason
  | noRow => "no rows returned by a query that expected to return at least one row"

def bodyOf : Option Response → Except RequestError (List UInt8)
  | none => .error .unreachable
  | some r =>
    if r.status = 200 then
      match exceptionIn? r.body with
      | none => .ok r.body
      | some reason => .error (.refused reason)
    else .error (.refused (reasonOf r))

/-! ### Connections -/

/-- A connection that is open or closed, and the state of what it sends requests to. -/
structure Line (τ : Type) where
  closed : Bool
  world : τ

variable {τ : Type}

def send (transport : Transport τ) (r : Request) : Action (Line τ) (Option Response) := fun line =>
  let (response, world) := (transport r).run line.world
  (.ok response, { line with world })

/-- An error unless the connection is open. -/
def ensureOpen : Action (Line τ) Unit := fun line =>
  (if line.closed then .error .closed else .ok (), line)

/-- The body that a prepared statement is answered with. Errors of the request itself and of its
answer are told apart by what is said before their text. -/
def ask (client : Client) (transport : Transport τ) (t : Template) (format : Option String)
    (onRequest onAnswer : String) : Action (Line τ) (List UInt8) := do
  match t.statement? with
  | .error reason =>
    throw (.query (onRequest ++ (RequestError.invalid reason).message))
  | .ok sql =>
    let response ← send transport (client.request sql format)
    match bodyOf response with
    | .ok body => return body
    | .error e => throw (.query (onAnswer ++ e.message))

/-- Executes a statement. The server does not tell how many rows it changes. -/
def executeOver (client : Client) (transport : Transport τ) (sql : String) (params : List Cell) :
    Action (Line τ) Outcome := do
  ensureOpen
  let t ← Action.ofExcept (prepare sql params)
  let _ ← ask client transport t none "Execute failed: " "Execute failed: "
  return ⟨0⟩

def queryOver (client : Client) (transport : Transport τ) (sql : String) (params : List Cell) :
    Action (Line τ) ResultSet := do
  ensureOpen
  let t ← Action.ofExcept (prepare sql params)
  let body ← ask client transport t (some "JSONEachRow") "Query failed: "
    "Failed to read query result: "
  Action.ofExcept (readChunks (client.chunks body))

def connection (client : Client) (transport : Transport τ) (database : String) :
    Connection (Line τ) where
  driverName := engine
  database := database
  execute := executeOver client transport
  query := queryOver client transport
  close := fun line => (.ok (), { line with closed := true })
  isClosed line := line.closed

/-! ### Servers -/

/-- A length, seven bits in each byte, the lowest first. -/
def readLength? : List UInt8 → Option (Nat × List UInt8)
  | [] => none
  | b :: r =>
    if b < 0x80 then some (b.toNat, r)
    else (readLength? r).map fun (n, rest) => (b.toNat % 128 + 128 * n, rest)

/-- A text after its length. -/
def readText? (s : List UInt8) : Option (List UInt8 × List UInt8) := do
  let (n, s) ← readLength? s
  if n ≤ s.length then some (s.take n, s.drop n) else none

/-- What follows the header of an answer with one column of bytes: one name and one type. -/
def afterHeader? (s : List UInt8) : Option (List UInt8) := do
  let (count, s) ← readLength? s
  if count ≠ 1 then none
  else do
    let (_, s) ← readText? s
    let (type, s) ← readText? s
    if type = bytesOf "UInt8" then some s else none

/-- Whether the answer to a probe holds a row. -/
def probed (body : List UInt8) : Except RequestError Unit :=
  match afterHeader? body with
  | none => .error (.refused "Could not read columns header")
  | some [] => .error .noRow
  | some _ => .ok ()

/-- What goes with every request to the server of a configuration. -/
def clientFor (config : ConnectionConfig) : Client :=
  (Client.of (Endpoint.ofConfig config)).withOptions (serverSettings config.params)

/-- Opens the line, if the first query was answered with a row. -/
def openOn : Except RequestError Unit → Action (Line τ) Unit
  | .error e => throw (.connection ("Failed to connect to ClickHouse: " ++ e.message))
  | .ok () => modify fun line => { line with closed := false }

def greet (client : Client) (transport : Transport τ) : Action (Line τ) Unit := do
  let response ← send transport (client.request probeQuery (some "RowBinaryWithNamesAndTypes"))
  openOn (bodyOf response >>= probed)

/-- Opens a connection to a server that answers a first query. -/
def connect (transport : Transport τ) (config : ConnectionConfig) :
    Action (Line τ) (Connection (Line τ)) := do
  let client := clientFor config
  greet client transport
  return connection client transport (Endpoint.ofConfig config).database

/-- Opens connections to the servers of the engine. -/
def provider (transport : Transport τ) : Provider (Line τ) where
  engine := engine
  defaultPort := some defaultPort
  connect := connect transport
  connectionString config := (Endpoint.ofConfig config).text

end SqlDialect.ClickHouse
