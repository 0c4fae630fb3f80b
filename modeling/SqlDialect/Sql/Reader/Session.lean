import SqlDialect.Sql.Reader.Alteration
/-!
# Reading listings and session commands

What follows `SHOW`, `SET`, the words for transactions, `GRANT` and `REVOKE`.
-/

namespace SqlDialect.Sql.Reader

/-! ### Listings -/

def showCondition (g : Grammar) (inner : Inner) : Reader (Option ShowFilter) := do
  match ← oneOf ["LIKE", "ILIKE", "WHERE"] with
  | some "LIKE" => return some (.like (← literal g))
  | some "ILIKE" => return some (.ilike (← literal g))
  | some _ => return some (.condition (← inner.expr 0))
  | none => return (← attempt (literal g)).map .bare

/-- Where the things that are shown lie, or nothing. -/
def showPlace : Reader (Option (String × Ident)) := do
  match ← oneOf ["FROM", "IN"] with
  | some w => return some (w, ← ident)
  | none => return none

/-- The words up to the end of the text or to an equality sign. -/
def wordsOf : List Token → List Ident
  | [] => []
  | .word value quote :: ts => ⟨value, quote⟩ :: wordsOf ts
  | .symbol s :: ts => if s = "=" then [] else wordsOf ts
  | _ :: ts => wordsOf ts

/-- What is left after those words. -/
def afterWordsOf : List Token → List Token
  | [] => []
  | t :: ts => if t = .symbol "=" then t :: ts else afterWordsOf ts

/-- The name of a variable: all words of the text, other tokens left out. -/
def variableName : Reader (List Ident) := fun ts => .ok (wordsOf ts, afterWordsOf ts)

/-- The columns of a table after `SHOW … COLUMNS`. The name of a database may follow the table. -/
def shownColumns (g : Grammar) (inner : Inner) (start : String) : Reader Statement := do
  let _ ← expectOneOf ["FROM", "IN"]
  let table ← name
  let database := ((← showPlace).map fun p => p.2).toList
  return .showColumns start (database ++ table) (← showCondition g inner)

/-- A statement after `SHOW` and the words before the kind of thing, where these words do not matter.
A listing that a grammar lacks takes its word all the same and names a variable. -/
def shownThing (g : Grammar) (inner : Inner) (scope : String) : Reader Statement := do
  if ← word "CREATE" then
    let kind ← expectOneOf ["TABLE", "TRIGGER", "FUNCTION", "PROCEDURE", "EVENT", "VIEW"]
    return .showCreate kind (← name)
  if ← word "COLLATION" then return .showListing "COLLATION" (← showCondition g inner)
  let listed ← word "VARIABLES"
  if listed && g.extended then
    return .showListing (scope ++ "VARIABLES") (← showCondition g inner)
  let status ← word "STATUS"
  if status && g.extended then
    return .showListing (scope ++ "STATUS") (← showCondition g inner)
  match ← oneOf ["DATABASES", "SCHEMAS"] with
  | some w => return .showListing w (← showCondition g inner)
  | none => return .showVariable (← variableName)

def show_ (g : Grammar) (inner : Inner) : Reader Statement := do
  let extended ← word "EXTENDED"
  let full ← word "FULL"
  let session ← word "SESSION"
  let global ← word "GLOBAL"
  let start := wordIf extended "EXTENDED" ++ wordIf full "FULL"
  if (← oneOf ["COLUMNS", "FIELDS"]).isSome then shownColumns g inner start
  else if ← word "TABLES" then
    let place ← showPlace
    return .showTables start place (← showCondition g inner)
  else
    let materialized ← words ["MATERIALIZED", "VIEWS"]
    if ← (if materialized then pure true else word "VIEWS") then
      let place := match ← showPlace with
        | some (w, i) => " " ++ w ++ " " ++ i.text
        | none => ""
      return .showListing (wordIf materialized "MATERIALIZED" ++ "VIEWS" ++ place)
        (← showCondition g inner)
    else if ← word "FUNCTIONS" then
      return .showListing "FUNCTIONS" (← showCondition g inner)
    else if extended || full then refuse
    else shownThing g inner (wordIf global "GLOBAL" ++ wordIf session "SESSION")

/-! ### Transactions -/

def transactionMode : Reader (Option String) := do
  if ← words ["ISOLATION", "LEVEL"] then
    let w ← expectOneOf ["READ", "REPEATABLE", "SERIALIZABLE"]
    if w = "READ" then
      return some ("ISOLATION LEVEL READ " ++ (← expectOneOf ["UNCOMMITTED", "COMMITTED"]))
    else if w = "REPEATABLE" then
      expectWord "READ"
      return some "ISOLATION LEVEL REPEATABLE READ"
    else return some "ISOLATION LEVEL SERIALIZABLE"
  else if ← word "READ" then return some ("READ " ++ (← expectOneOf ["ONLY", "WRITE"]))
  else return none

/-- Properties of a transaction, at most `fuel` of them. Commas may stand between them; after a comma
there has to be one. -/
def transactionModesWithin : (fuel : Nat) → (required : Bool) → Reader (List String)
  | 0, _ => refuse
  | fuel + 1, required => do
    match ← transactionMode with
    | some m =>
      let comma ← symbol ","
      return m :: (← transactionModesWithin fuel comma)
    | none => if required then refuse else return []

def transactionModes : Reader (List String) := do
  transactionModesWithin ((← remaining) + 1) false

/-- `AND CHAIN`, `AND NO CHAIN` or nothing, after the word for a transaction. -/
def chain : Reader Bool := do
  let _ ← oneOf ["TRANSACTION", "WORK"]
  if ← word "AND" then
    let none_ ← word "NO"
    expectWord "CHAIN"
    return !none_
  return false

def begin_ (g : Grammar) : Reader Statement := do
  let modifier ← if g.extended then oneOf ["DEFERRED", "IMMEDIATE", "EXCLUSIVE"] else pure none
  let _ ← oneOf ["TRANSACTION", "WORK"]
  return .begin ("BEGIN" ++ textClause " " modifier ++ " TRANSACTION") (← transactionModes)

def rollback : Reader Statement := do
  let chained ← chain
  let target ← after "TO" do
    let _ ← word "SAVEPOINT"
    ident
  return .rollback chained target

/-! ### Variables -/

/-- A value of a variable. A query needs no parentheses around it. -/
def variableValue (inner : Inner) : Reader Expr := do
  if ← atQuery then .subquery <$> inner.query else inner.expr 0

def setRole (scope : String) : Reader Statement := do
  expectWord "ROLE"
  let role ← if ← word "NONE" then pure "NONE" else (·.text) <$> ident
  return .command (plain ("SET " ++ scope ++ "ROLE " ++ role))

/-- Several variables that are set at once, after their opening parenthesis. -/
def setTuple (inner : Inner) (start : String) : Reader Statement := do
  let names ← commaList ident
  expect ")"
  unless ← symbol "=" do expectWord "TO"
  return .setAll start names (← inParens (commaList (variableValue inner)))

def setNames (g : Grammar) : Reader Statement := do
  if ← word "DEFAULT" then return .command (plain "SET NAMES DEFAULT")
  let charset ← literal g
  let collation ← after "COLLATE" (literal g)
  return .command (plain ("SET NAMES " ++ charset ++ textClause " COLLATE " collation))

/-- A time zone or properties of transactions, which are set without an equality sign, after the name
`n` of what is set. -/
def setOther (g : Grammar) (inner : Inner) (scope : Option String) (n : Name) : Reader Statement := do
  let text := Name.text n
  let local_ := wordIf (scope == some "LOCAL") "LOCAL"
  if text.toList.map Text.lowerAscii = "timezone".toList then
    return .command [.phrase ("SET " ++ local_ ++ "TIME ZONE") [← inner.expr 0]]
  else if text = "CHARACTERISTICS" then
    expectWords ["AS", "TRANSACTION"]
    return .begin "SET SESSION CHARACTERISTICS AS TRANSACTION" (← transactionModes)
  else if text = "TRANSACTION" ∧ scope.isNone then
    match ← after "SNAPSHOT" (constant g) with
    | some c => return .command [.phrase "SET TRANSACTION SNAPSHOT" [.constant c]]
    | none => return .begin "SET TRANSACTION" (← transactionModes)
  else refuse

def set (g : Grammar) (inner : Inner) : Reader Statement := do
  let scope ← oneOf ["SESSION", "LOCAL", "HIVEVAR"]
  let role ←
    if scope = some "HIVEVAR" then
      expect ":"
      pure none
    else attempt (setRole (textClause "" scope ++ if scope.isSome then " " else ""))
  if let some s := role then return s
  let start :=
    if scope = some "LOCAL" then "LOCAL " else if scope = some "HIVEVAR" then "HIVEVAR:" else ""
  let zone ← words ["TIME", "ZONE"]
  if !zone && g.extended && (← symbol "(") then return ← setTuple inner start
  let n ← if zone then pure [⟨"TIMEZONE", none⟩] else name
  if g.extended ∧ (Name.text n).toList.map Text.lowerAscii = "names".toList then setNames g
  else if ← (do if ← symbol "=" then pure true else word "TO") then
    return .set start n (← commaList (variableValue inner))
  else setOther g inner scope n

/-! ### Rights -/

/-- A right to do something, some of them with columns. -/
def right : Reader String := do
  let w ← expectOneOf ["CONNECT", "CREATE", "DELETE", "EXECUTE", "INSERT", "REFERENCES", "SELECT",
    "TEMPORARY", "TRIGGER", "TRUNCATE", "UPDATE", "USAGE"]
  if w ∈ ["INSERT", "REFERENCES", "SELECT", "UPDATE"] then
    let columns ← optionalIdentList
    return if columns.isEmpty then w else w ++ " " ++ columnList columns
  return w

/-- Rights and the things they are rights on. -/
def rights : Reader String := do
  let which ←
    if ← word "ALL" then
      pure (if ← word "PRIVILEGES" then "ALL PRIVILEGES" else "ALL")
    else commas <$> commaList right
  expectWord "ON"
  let kind ←
    if ← words ["ALL", "TABLES", "IN", "SCHEMA"] then pure "ALL TABLES IN SCHEMA "
    else if ← words ["ALL", "SEQUENCES", "IN", "SCHEMA"] then pure "ALL SEQUENCES IN SCHEMA "
    else
      match ← oneOf ["SEQUENCE", "SCHEMA", "TABLE"] with
      | some "TABLE" | none => pure ""
      | some w => pure (w ++ " ")
  return which ++ " ON " ++ kind ++ commas ((← commaList name).map Name.text)

/-- Who gives or takes rights, or nothing. -/
def grantor : Reader String := do
  return identClause " GRANTED BY " (← afterWords ["GRANTED", "BY"] ident)

def grant : Reader Statement := do
  let what ← rights
  expectWord "TO"
  let whom ← commaList ident
  let option ← words ["WITH", "GRANT", "OPTION"]
  return .command (plain ("GRANT " ++ what ++ " TO " ++ commas (whom.map Ident.text) ++
    (if option then " WITH GRANT OPTION" else "") ++ (← grantor)))

def revoke : Reader Statement := do
  let what ← rights
  expectWord "FROM"
  let whom ← commaList ident
  let by_ ← grantor
  let cascade ← word "CASCADE"
  let restrict ← word "RESTRICT"
  if cascade && restrict then refuse
  return .command (plain ("REVOKE " ++ what ++ " FROM " ++ commas (whom.map Ident.text) ++ by_ ++
    if cascade then " CASCADE" else " RESTRICT"))

end SqlDialect.Sql.Reader
