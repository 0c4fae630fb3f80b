import SqlDialect.Sql.Reader.Property
/-!
# Reading column types

`dataType` reads a type of the grammar or a type named by its user. Sizes and precisions belong to
the text of a type; types made from others keep their parts.

Types between angle brackets may close two brackets with one `>>`, so the readers for them also say
whether a bracket of an outer type has been closed already.
-/

namespace SqlDialect.Sql.Reader

/-- Words that are a type by themselves, each with its text. -/
def plainTypes : List (String × String) :=
  [("BOOLEAN", "BOOLEAN"), ("BOOL", "BOOL"), ("REAL", "REAL"), ("FLOAT4", "FLOAT4"),
    ("FLOAT32", "Float32"), ("FLOAT64", "FLOAT64"), ("FLOAT8", "FLOAT8"), ("INT16", "Int16"),
    ("INT32", "Int32"), ("INT64", "INT64"), ("INT128", "Int128"), ("INT256", "Int256"),
    ("UINT8", "UInt8"), ("UINT16", "UInt16"), ("UINT32", "UInt32"), ("UINT64", "UInt64"),
    ("UINT128", "UInt128"), ("UINT256", "UInt256"), ("BYTEA", "BYTEA"), ("UUID", "UUID"),
    ("DATE", "DATE"), ("DATE32", "Date32"), ("INTERVAL", "INTERVAL"), ("JSON", "JSON"),
    ("JSONB", "JSONB"), ("REGCLASS", "REGCLASS"), ("TEXT", "TEXT"), ("TRIGGER", "TRIGGER")]

/-- Integer types that may have a display width and be unsigned. -/
def integerTypes : List String :=
  ["TINYINT", "INT2", "SMALLINT", "MEDIUMINT", "INT", "INT4", "INT8", "INTEGER", "BIGINT"]

def sizedTypes : List String :=
  ["FLOAT", "CLOB", "BINARY", "VARBINARY", "BLOB", "BYTES", "DATETIME", "STRING"]

/-- Types that may have a precision and a scale. -/
def exactTypes : List String := ["NUMERIC", "DECIMAL", "DEC", "BIGNUMERIC", "BIGDECIMAL"]

/-- A number between parentheses, or nothing. -/
def size : Reader String := do
  if ← symbol "(" then
    let n ← natural
    expect ")"
    return "(" ++ n ++ ")"
  return ""

/-- A number of characters in a unit between parentheses, or nothing. -/
def length : Reader String := do
  if ← symbol "(" then
    if ← word "MAX" then
      expect ")"
      return "(MAX)"
    let n ← natural
    let unit ← oneOf ["CHARACTERS", "OCTETS"]
    expect ")"
    return "(" ++ n ++ textClause " " unit ++ ")"
  return ""

/-- A precision and a scale between parentheses, or nothing. -/
def precision : Reader String := do
  if ← symbol "(" then
    let p ← natural
    let s ← if ← symbol "," then ("," ++ ·) <$> natural else pure ""
    expect ")"
    return "(" ++ p ++ s ++ ")"
  return ""

/-- `WITH TIME ZONE` or `WITHOUT TIME ZONE`, or nothing. -/
def timeZone : Reader String := do
  match ← oneOf ["WITH", "WITHOUT"] with
  | some w =>
    expectWords ["TIME", "ZONE"]
    return " " ++ w ++ " TIME ZONE"
  | none => return ""

def stringList : Reader String := inParens do
  let ss ← commaList quotedText
  return commas (ss.map (enclose '\''))

/-- A modifier of a type named by its user, or a comma; nothing at the closing parenthesis. -/
def modifier : Reader (Option (List String)) := do
  match ← take with
  | .word value quote => pure (some [(Token.word value quote).text])
  | .number digits _ => pure (some [digits])
  | .string value => pure (some [value])
  | .symbol "," => pure (some [])
  | .symbol ")" => pure none
  | _ => refuse

/-- The modifiers of a type named by its user, or nothing. -/
def modifiers : Reader (List String) := do
  if ← symbol "(" then return (← collect modifier).flatten
  return []

def characterType (w : String) : Reader String := do
  if ← word "VARYING" then return w ++ " VARYING" ++ (← length)
  if ← words ["LARGE", "OBJECT"] then return w ++ " LARGE OBJECT" ++ (← size)
  return w ++ (← length)

/-- A point in time with its precision and the name of its zone, after its word. -/
def zonedType (g : Grammar) : Reader String := inParens do
  let p ← natural
  let zone ← if ← symbol "," then (fun s => ", '" ++ s ++ "'") <$> literal g else pure ""
  return "DateTime64(" ++ p ++ zone ++ ")"

/-- The text of a type that is made from no other, after its word. -/
def simpleType? (g : Grammar) (w : String) : Option (Reader String) :=
  if let some (_, text) := plainTypes.find? (·.1 == w) then some (pure text)
  else if w ∈ integerTypes then some do
    let width ← size
    return w ++ width ++ if ← word "UNSIGNED" then " UNSIGNED" else ""
  else if w ∈ exactTypes then some do return w ++ (← precision)
  else if w ∈ sizedTypes then some do return w ++ (← size)
  else if w = "VARCHAR" ∨ w = "NVARCHAR" then some do return w ++ (← length)
  else if w = "CHAR" ∨ w = "CHARACTER" then some (characterType w)
  else if w = "DOUBLE" then some do
    return if ← word "PRECISION" then "DOUBLE PRECISION" else "DOUBLE"
  else if w = "TIMESTAMP" ∨ w = "TIME" then some do
    let p ← size
    return w ++ p ++ (← timeZone)
  else if w = "TIMESTAMPTZ" ∨ w = "TIMETZ" then some do return w ++ (← size)
  else if w = "DATETIME64" then some (zonedType g)
  else if w = "FIXEDSTRING" then some do
    return "FixedString(" ++ (← inParens natural) ++ ")"
  else if w = "ENUM" ∨ w = "SET" then some do return w ++ "(" ++ (← stringList) ++ ")"
  else none

/-- A type, and whether a bracket around it has been closed. -/
abbrev TypeReader := Reader (DataType × Bool)

/-- A type that closes no bracket of an outer one. -/
def closed (type : TypeReader) : Reader DataType := do
  match ← type with
  | (t, false) => pure t
  | (_, true) => refuse

/-- The angle bracket after the types inside, if it has not been closed; whether an outer one has
been closed. -/
def closeAngle (isClosed : Bool) : Reader Bool := do
  if isClosed then return false
  if ← symbol ">" then return false
  expect ">>"
  return true

/-- A part of a tuple: a type, with a name before it where two words come next. -/
def tuplePart (type : TypeReader) : Reader ((Option Ident × DataType) × Bool) := do
  let i ←
    match ← peek, ← peekAt 1 with
    | some (.word ..), some (.word ..) => some <$> ident
    | _, _ => pure none
  let (t, isClosed) ← type
  return ((i, t), isClosed)

/-- The parts of a tuple between parentheses; only the last may have closed a bracket. -/
def tupleType (type : TypeReader) : Reader DataType := do
  let parts ← inParens (commaList (tuplePart type))
  return .composite "Tuple" (parts.map (·.1.1)) (parts.map (·.1.2))

/-- The parts of a record between angle brackets, or no parts. -/
def recordType (type : TypeReader) : TypeReader := do
  if ← symbol "<" then
    let parts ← commaList (tuplePart type)
    if parts.dropLast.any (·.2) then refuse
    let isClosed ← closeAngle (parts.any (·.2))
    return (.angled "STRUCT" (parts.map (·.1.1)) (parts.map (·.1.2)), isClosed)
  return (.angled "STRUCT" [] [], false)

/-- A column of a nested table: a name, a type, and options. -/
def nestedColumn (g : Grammar) (inner : Inner) (type : TypeReader) :
    Reader (Option Ident × DataType) := do
  let i ← ident
  let t ← closed type
  let (collation, options) ← columnTail g inner
  let words := nameClause " COLLATE " collation ++ spaced (Expr.texts options)
  return (some i, if words = "" then t else .followed t words)

/-- The columns of a nested table between parentheses. -/
def nestedType (g : Grammar) (inner : Inner) (type : TypeReader) : Reader DataType := do
  let parts ← inParens (commaList (nestedColumn g inner type))
  return .composite "Nested" (parts.map (·.1)) (parts.map (·.2))

/-- A type whose values are of one of several types, each with a name. -/
def unionType (type : TypeReader) : Reader DataType := do
  let parts ← inParens (commaList do
    let i ← ident
    return (some i, ← closed type))
  return .composite "UNION" (parts.map (·.1)) (parts.map (·.2))

/-- A type made from exactly one other. -/
def wrapper (maker : String) (type : TypeReader) : Reader DataType := do
  return .composite maker [none] [← inParens (closed type)]

/-- A type made from the types of keys and of values. -/
def mapType (type : TypeReader) : Reader DataType := inParens do
  let key ← closed type
  expect ","
  return .composite "Map" [none, none] [key, ← closed type]

/-- A type made from others after its word, if the word makes one. -/
def madeType? (g : Grammar) (inner : Inner) (type : TypeReader) (w : String) :
    Option TypeReader :=
  let plain (r : Reader DataType) : Option TypeReader := some ((·, false) <$> r)
  if w = "ARRAY" ∧ g.columnar then plain (wrapper "Array" type)
  else if w = "ARRAY" then some do
    expect "<"
    let (t, isClosed) ← type
    return (.angled "ARRAY" [none] [t], ← closeAngle isClosed)
  else if w = "STRUCT" ∧ g.extended then some (recordType type)
  else if w = "UNION" ∧ g.extended then plain (unionType type)
  else if w = "NULLABLE" then plain (wrapper "Nullable" type)
  else if w = "LOWCARDINALITY" then plain (wrapper "LowCardinality" type)
  else if w = "MAP" then plain (mapType type)
  else if w = "NESTED" then plain (nestedType g inner type)
  else if w = "TUPLE" then plain (tupleType type)
  else none

/-- The brackets after the type of an array's items, at most `fuel` of them. -/
def arraySuffix (g : Grammar) : (fuel : Nat) → DataType → Reader DataType
  | 0, _ => refuse
  | fuel + 1, t => do
    if ← symbol "[" then
      let n ← if g.extended then attempt natural else pure none
      expect "]"
      arraySuffix g fuel (.array t n)
    else return t

/-- A type that nests less than `fuel` deep. -/
def dataTypeWithin (g : Grammar) (inner : Inner) : (fuel : Nat) → TypeReader
  | 0 => refuse
  | fuel + 1 => do
    let part := dataTypeWithin g inner fuel
    let w ← peekKeyword
    let (t, isClosed) ←
      match simpleType? g w, madeType? g inner part w with
      | some r, _ =>
        let _ ← take
        (fun s => (.builtin s, false)) <$> r
      | none, some r =>
        let _ ← take
        r
      | none, none =>
        match ← peek with
        | some (.word ..) =>
          let n ← name
          pure (.custom n (← modifiers), false)
        | _ => refuse
    return (← arraySuffix g ((← remaining) + 1) t, isClosed)

def dataType (g : Grammar) (inner : Inner) : Reader DataType := do
  closed (dataTypeWithin g inner ((← remaining) + 1))

end SqlDialect.Sql.Reader
