import SqlDialect.Sql.Reader.Expr
/-!
# Reading tables made from JSON

The columns of `JSON_TABLE` and of `OPENJSON`. Each column says where in the document its values
lie and what stands in the place of a value that is missing.
-/

namespace SqlDialect.Sql.Reader

/-! ### `JSON_TABLE` -/

/-- What a column holds where a value is missing or wrong, and which of the two, or nothing. -/
def jsonFallback (g : Grammar) : Reader (Option (String × String)) := do
  match ← oneOf ["NULL", "ERROR", "DEFAULT"] with
  | none => return none
  | some w =>
    let value ← if w = "DEFAULT" then (fun c => " " ++ c.text) <$> constant g else pure ""
    expectWord "ON"
    return some (← expectOneOf ["EMPTY", "ERROR"], w ++ value)

/-- A column that holds values from one place, after its name. Of several fallbacks of a kind the last
one holds. -/
def jsonValueColumn (g : Grammar) (inner : Inner) (i : Ident) : Reader String := do
  let type ← dataType g inner
  let present ← word "EXISTS"
  expectWord "PATH"
  let path ← constant g
  let fallbacks := (← collect (jsonFallback g)).reverse
  let fallback (kind : String) : String :=
    ((fallbacks.lookup kind).map fun s => " " ++ s ++ " ON " ++ kind).getD ""
  return i.text ++ " " ++ type.text ++ (if present then " EXISTS" else "") ++ " PATH " ++ path.text ++
    fallback "EMPTY" ++ fallback "ERROR"

/-- A column that nests less than `fuel` deep. -/
def jsonColumnWithin (g : Grammar) (inner : Inner) : (fuel : Nat) → Reader String
  | 0 => refuse
  | fuel + 1 => do
    if ← word "NESTED" then
      let _ ← word "PATH"
      let path ← constant g
      expectWord "COLUMNS"
      let columns ← inParens (commaList (jsonColumnWithin g inner fuel))
      return "NESTED PATH " ++ path.text ++ " COLUMNS " ++ parens (commas columns)
    let i ← ident
    if ← word "FOR" then
      expectWord "ORDINALITY"
      return i.text ++ " FOR ORDINALITY"
    jsonValueColumn g inner i

/-- The arguments of `JSON_TABLE` between parentheses: a document, and a place in it with the columns
read from there. -/
def jsonTableArguments (g : Grammar) (inner : Inner) : Reader (List Expr) := inParens do
  let document ← inner.expr 0
  expect ","
  let path ← constant g
  expectWord "COLUMNS"
  let columns ← inParens (commaList (do jsonColumnWithin g inner ((← remaining) + 1)))
  return [document, .followed (.constant path) ("COLUMNS" ++ parens (commas columns))]

/-! ### `OPENJSON` -/

/-- The arguments of `OPENJSON` between parentheses: a document and perhaps a place in it. -/
def openJsonArguments (g : Grammar) (inner : Inner) : Reader (List Expr) := inParens do
  let document ← inner.expr 0
  if ← symbol "," then return [document, .constant (← constant g)] else return [document]

/-- A column with its place and whether it is JSON. -/
def openJsonColumn (g : Grammar) (inner : Inner) : Reader Expr := do
  let i ← ident
  let type ← dataType g inner
  let path ← attempt quotedText
  let json ← after "AS" (expectWord "JSON")
  return .phrase (i.text ++ " " ++ type.text ++
    textClause " " (path.map (enclose '\'')) ++ if json.isSome then " AS JSON" else "") []

/-- The columns after `WITH`, or nothing. -/
def openJsonColumns (g : Grammar) (inner : Inner) : Reader (List Expr) := do
  return (← after "WITH" (inParens (commaList (openJsonColumn g inner)))).getD []

end SqlDialect.Sql.Reader
