import SqlDialect.Sql.Reader.Query
/-!
# Reading columns and constraints

The columns of a table, each with its options, and the constraints of a table, each read as phrases.
-/

namespace SqlDialect.Sql.Reader

def columnDef (g : Grammar) (inner : Inner) : Reader ColumnDef := do
  let i ← ident
  let type ← dataType g inner
  let (collation, options) ← columnTail g inner
  return { name := i, type, collation, options }

/-! ### Constraints of a table -/

/-- How an index is kept after `USING`, or nothing. -/
def indexMethod : Reader (Option String) :=
  after "USING" do return "USING " ++ (← expectOneOf ["BTREE", "HASH"])

def indexOption (g : Grammar) : Reader (Option (List Expr)) := do
  match ← indexMethod with
  | some w => return some (plain w)
  | none => after "COMMENT" do return plain ("COMMENT '" ++ (← literal g) ++ "'")

/-- The columns of a key with a name and a method before them, and options after them. -/
def keyColumns (g : Grammar) (start : String) : Reader (List Expr) := do
  let i ← optionalIdent
  let method ← indexMethod
  let columns ← identList
  let options ← collect (indexOption g)
  return plain (start ++ identClause " " i ++ textClause " " method ++ " " ++ columnList columns) ++
    options.flatten ++ (← characteristics)

/-- A key whose values differ after `UNIQUE`. -/
def uniqueKey (g : Grammar) (start : String) : Reader (List Expr) := do
  let kind ← oneOf ["KEY", "INDEX"]
  if kind.isSome && !g.extended then refuse
  keyColumns g (start ++ "UNIQUE" ++ textClause " " kind)

/-- A key of another table after `FOREIGN`. -/
def foreignKey (start : String) : Reader (List Expr) := do
  expectWord "KEY"
  let columns ← identList
  expectWord "REFERENCES"
  let table ← name
  let others ← identList
  let actions ← referentialActions
  return plain (start ++ "FOREIGN KEY " ++ columnList columns ++ " REFERENCES " ++
    Name.text table ++ columnList others) ++ actions ++ (← characteristics)

/-- An index after the word `w` for it. -/
def indexMember (w : String) : Reader (List Expr) := do
  let i ← if (← peekKeyword) = "USING" then pure none else optionalIdent
  let method ← indexMethod
  return plain (w ++ identClause " " i ++ textClause " " method ++ " " ++ columnList (← identList))

/-- An index for searches in texts or places after the word `w` for it. -/
def searchIndex (w : String) : Reader (List Expr) := do
  let kind ← oneOf ["KEY", "INDEX"]
  let i ← optionalIdent
  return plain (w ++ textClause " " kind ++ identClause " " i ++ " " ++ columnList (← identList))

def constraint (g : Grammar) (inner : Inner) : Reader (Option (List Expr)) := do
  let named ← after "CONSTRAINT" ident
  let start := (named.map fun i => "CONSTRAINT " ++ i.text ++ " ").getD ""
  let mine := g.extended && named.isNone
  match ← peekKeyword with
  | "UNIQUE" => do let _ ← take; some <$> uniqueKey g start
  | "PRIMARY" => do
    expectWords ["PRIMARY", "KEY"]
    some <$> keyColumns g (start ++ "PRIMARY KEY")
  | "FOREIGN" => do let _ ← take; some <$> foreignKey start
  | "CHECK" => do
    let _ ← take
    return some ((named.map fun i => .phrase ("CONSTRAINT " ++ i.text) []).toList ++ (← check inner))
  | w =>
    if (w = "INDEX" ∨ w = "KEY") ∧ mine then
      let _ ← take
      some <$> indexMember w
    else if (w = "FULLTEXT" ∨ w = "SPATIAL") ∧ mine then
      let _ ← take
      some <$> searchIndex w
    else if named.isSome then refuse
    else return none

/-- A member of a definition: a constraint or a column. -/
def member (g : Grammar) (inner : Inner) : Reader (List Expr ⊕ ColumnDef) := do
  match ← constraint g inner with
  | some c => return .inl c
  | none =>
    match ← peek with
    | some (.word ..) => .inr <$> columnDef g inner
    | _ => refuse

/-- The members of a definition between parentheses, or nothing. -/
def members (g : Grammar) (inner : Inner) : Reader (List (List Expr ⊕ ColumnDef)) := do
  if ← symbol "(" then
    if ← symbol ")" then return []
    let ms ← commaList (member g inner)
    expect ")"
    return ms
  return []

end SqlDialect.Sql.Reader
