import SqlDialect.Json.Printer
import SqlDialect.Json.Reader
import SqlDialect.ResultSet
import SqlDialect.Text.Blank
import SqlDialect.Text.Utf8
/-!
# Rows as JSON lines

A server answers with one JSON object on each line. The first object gives the columns; a field that
a later object lacks is NULL, and one that the first lacks does not show. Blank lines do not count.
-/

namespace SqlDialect.ClickHouse

mutual

/-- The cell that a JSON value stands for. An object stays a document, inside arrays too. -/
def cellOfJson : Json → Cell
  | .null => .null
  | .bool b => .bool b
  | .number (.integer n) =>
    if n < 0x8000000000000000 then .int64 (Int64.ofInt n) else .uint64 (UInt64.ofNat n.toNat)
  | .number (.double bits) => .float64 bits
  | .number (.single bits) => .float32 bits
  | .string s => .string s
  | .array items => .array (cellsOfJson items)
  | .object members => .json (.object members)

def cellsOfJson : List Json → List Cell
  | [] => []
  | j :: js => cellOfJson j :: cellsOfJson js

end

def lineObject (line : List Char) : Except DbError (List (String × Json)) :=
  match Json.read? (String.ofList line) with
  | none => .error .serialization
  | some (.object members) => .ok members
  | some j => .error (.decode "<row>" "JSON object" j.compact)

def cellsOf (names : List String) (members : List (String × Json)) : List Cell :=
  names.map fun name => ((Json.lookup name members).map cellOfJson).getD .null

def resultOf (objects : List (List (String × Json))) : ResultSet :=
  let names := (objects.head?.getD []).map (·.1)
  .ofRows names (objects.map (cellsOf names))

def readRowText (s : List Char) : Except DbError ResultSet := do
  let lines := (Text.lines s).filter fun line => !(Text.trimChars line).isEmpty
  let objects ← lines.mapM lineObject
  return resultOf objects

def readRows (body : List UInt8) : Except DbError ResultSet :=
  readRowText (Text.Utf8.decodeLossy body)

/-- The result that the body of an answer is, given in chunks as they arrive. No chunk is read
before all are there, since it may end within a line or within a character. -/
def readChunks (chunks : List (List UInt8)) : Except DbError ResultSet :=
  readRows (chunks.foldl (· ++ ·) [])

end SqlDialect.ClickHouse
