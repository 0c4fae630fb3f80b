import SqlDialect.Sql.Reader.Session
/-!
# Reading copies

A copy moves the rows of a table from a file or to one, or the rows of a query to one. Its options
stand between parentheses, or in an older form after one another.
-/

namespace SqlDialect.Sql.Reader

/-- A string of one byte. -/
def oneChar (g : Grammar) : Reader String := do
  let s ← literal g
  if s.utf8ByteSize = 1 then return s else refuse

def quotedChar (g : Grammar) : Reader String := return "'" ++ (← oneChar g) ++ "'"

/-- A switch that is on unless `FALSE` follows its word. -/
def switchOption (w : String) : Reader String := do
  return if (← oneOf ["TRUE", "FALSE"]) = some "FALSE" then w ++ " FALSE" else w

def copyOption (g : Grammar) : Reader String := do
  let w ← expectOneOf ["FORMAT", "FREEZE", "DELIMITER", "NULL", "HEADER", "QUOTE", "ESCAPE",
    "FORCE_QUOTE", "FORCE_NOT_NULL", "FORCE_NULL", "ENCODING"]
  if w = "FORMAT" then return "FORMAT " ++ (← ident).text
  else if w = "FREEZE" ∨ w = "HEADER" then switchOption w
  else if w = "NULL" ∨ w = "ENCODING" then return w ++ " " ++ enclose '\'' (← literal g)
  else if w ∈ ["FORCE_QUOTE", "FORCE_NOT_NULL", "FORCE_NULL"] then
    return w ++ " " ++ columnList (← identList)
  else return w ++ " " ++ (← quotedChar g)

/-- An option of a format with commas, in the older form. -/
def csvOption (g : Grammar) : Reader String := do
  let w ← expectOneOf ["HEADER", "QUOTE", "ESCAPE", "FORCE"]
  if w = "HEADER" then return w
  else if w = "FORCE" then
    let what ← if ← words ["NOT", "NULL"] then pure "NOT NULL" else do
      expectWord "QUOTE"
      pure "QUOTE"
    return "FORCE " ++ what ++ " " ++ commas ((← commaList ident).map Ident.text)
  else
    let _ ← word "AS"
    return w ++ " " ++ (← quotedChar g)

def olderCopyOption (g : Grammar) : Reader String := do
  let w ← expectOneOf ["BINARY", "DELIMITER", "NULL", "CSV"]
  if w = "BINARY" then return w
  else if w = "CSV" then return "CSV" ++ spaced (← collect (attempt (csvOption g)))
  else
    let _ ← word "AS"
    if w = "NULL" then return "NULL " ++ enclose '\'' (← literal g)
    return w ++ " " ++ (← quotedChar g)

/-- What is copied: the rows of a query, or of some columns of a table. -/
def copySource (inner : Inner) : Reader (Bool × Expr) := do
  if ← isSymbol "(" then return (true, .subquery (← inParens inner.query))
  let n ← name
  let columns ← optionalIdentList
  return (false, .phrase (Name.text n ++ if columns.isEmpty then "" else " " ++ columnList columns) [])

/-- Where rows are copied to or from, and whether they stand in the text itself. -/
def copyTarget (g : Grammar) : Reader (String × Bool) := do
  match ← oneOf ["STDIN", "STDOUT", "PROGRAM"] with
  | some "PROGRAM" => return ("PROGRAM " ++ enclose '\'' (← literal g), false)
  | some w => return (w, w = "STDIN")
  | none => return (enclose '\'' (← literal g), false)

/-- Everything that is left. -/
def takeAll : Reader Unit := fun _ => .ok ((), [])

/-- A statement after `COPY`. Rows that are copied from the text itself follow a semicolon and go up to
the end of the text; they are left out. -/
def copy (g : Grammar) (inner : Inner) : Reader Statement := do
  let (fromQuery, source) ← copySource inner
  let w ← expectOneOf ["FROM", "TO"]
  if fromQuery && w = "FROM" then refuse
  let (target, inText) ← copyTarget g
  let _ ← word "WITH"
  let options ← if ← isSymbol "(" then inParens (commaList (copyOption g)) else pure []
  let older ← collect (attempt (olderCopyOption g))
  if inText then
    expect ";"
    takeAll
  return .command [.phrase "COPY" [source], .phrase (w ++ " " ++ target ++
    (if options.isEmpty then "" else " " ++ parens (commas options)) ++ spaced older) []]

end SqlDialect.Sql.Reader
