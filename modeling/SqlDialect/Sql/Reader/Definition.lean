import SqlDialect.Sql.Reader.Routine
import SqlDialect.Sql.Reader.Storage
/-!
# Reading definitions

What follows `CREATE`: tables, views, indexes, and smaller things that are read as phrases. The clauses
of a definition come in a fixed order, each at most once.
-/

namespace SqlDialect.Sql.Reader

/-! ### Clauses of definitions -/

/-- The servers that a change is made on, or nothing. -/
def onCluster : Reader (Option Ident) := afterWords ["ON", "CLUSTER"] ident

def bareWord : Reader String := do
  match ← take with
  | .word value _ => return value
  | _ => refuse

/-- A storage engine after `ENGINE`, with parameters or without. Parentheses are not empty. -/
def engine : Reader (String × Option (List Ident)) := do
  expect "="
  let e ← bareWord
  if ← isSymbol "(" then return (e, some (← identList)) else return (e, none)

/-- The comment of a table after `COMMENT`, and whether an equality sign stands before it. -/
def tableComment : Reader (Bool × String) := do
  let equals ← symbol "="
  return (equals, ← quotedText)

/-- A sort order in a definition: an expression, or a list that may be empty. -/
def definitionOrder (inner : Inner) : Reader Expr := do
  if ← isSymbol "(" then .tuple <$> exprTuple inner else inner.expr 0

/-- The first number that a counting column gives, after `AUTO_INCREMENT`. -/
def firstNumber : Reader String := do
  let _ ← symbol "="
  naturalBelow 0x100000000

/-- What becomes of the rows at the end of a transaction. -/
def commitAction : Reader String := do
  let w ← expectOneOf ["DELETE", "PRESERVE", "DROP"]
  if w = "DROP" then return w
  expectWord "ROWS"
  return w ++ " ROWS"

/-- A word after an equality sign. -/
def equalsWord : Reader String := do
  expect "="
  bareWord

/-! ### Tables and views -/

/-- A definition after `CREATE … TABLE`; the words stand between the two. -/
def tableDefinition (g : Grammar) (inner : Inner) (start : String) : Reader Statement := do
  let absent ← ifNotExists
  let n ← name
  let cluster ← onCluster
  let like ← if (← oneOf ["LIKE", "ILIKE"]).isSome then nameIfAny else pure none
  let cloned ← if ← word "CLONE" then nameIfAny else pure none
  let ms ← members g inner
  let withoutRowId ← words ["WITHOUT", "ROWID"]
  let partitioned ← partitionColumns g inner
  let buckets ← if g.extended then buckets inner else pure []
  let files ← storage g inner
  let parameters ← propertiesAfter g inner "WITH"
  let tableProperties ← propertiesAfter g inner "TBLPROPERTIES"
  let tableEngine ← after "ENGINE" engine
  let autoIncrement ← after "AUTO_INCREMENT" firstNumber
  let primaryKey ← afterWords ["PRIMARY", "KEY"] (inner.expr 0)
  let order ← afterWords ["ORDER", "BY"] (definitionOrder inner)
  let partition ←
    if g.extended then afterWords ["PARTITION", "BY"] (inner.expr 0) else pure none
  let clustering ← if g.extended then afterWords ["CLUSTER", "BY"] (commaList ident) else pure none
  let options ← if g.extended then after "OPTIONS" (properties g inner) else pure none
  let charset ← afterWords ["DEFAULT", "CHARSET"] equalsWord
  let collation ← after "COLLATE" equalsWord
  let onCommit ← afterWords ["ON", "COMMIT"] commitAction
  let strict ← word "STRICT"
  let comment ← after "COMMENT" tableComment
  let query ← after "AS" inner.query
  return .createTable {
    words := start, ifNotExists := absent, name := n, cluster, like, cloned
    columns := ms.filterMap Sum.getRight?
    constraints := ms.filterMap Sum.getLeft?
    withoutRowId, partitioned, storage := buckets ++ files.phrases, properties := tableProperties
    parameters, engine := tableEngine, comment, autoIncrement, primaryKey, order, partition
    clustering := clustering.getD []
    options, charset, collation, onCommit, strict, query }

/-- A definition after `CREATE … EXTERNAL`, of a table whose files lie at a given place. -/
def externalTable (g : Grammar) (inner : Inner) (orReplace : Bool) : Reader Statement := do
  expectWord "TABLE"
  let absent ← ifNotExists
  let n ← name
  let ms ← members g inner
  let partitioned ← partitionColumns g inner
  let files ← storage g inner
  let properties ← propertiesAfter g inner "TBLPROPERTIES"
  if files.location.isNone then refuse
  return .createTable {
    words := wordIf orReplace "OR REPLACE" ++ "EXTERNAL ", ifNotExists := absent, name := n
    columns := ms.filterMap Sum.getRight?
    constraints := ms.filterMap Sum.getLeft?
    partitioned, storage := files.externalPhrases, properties }

/-- A column of a view. It has a type in some grammars and may have an option in others. -/
def viewColumn (g : Grammar) (inner : Inner) : Reader ViewColumn := do
  let i ← ident
  let w ← peekKeyword
  let options ←
    if g.extended ∧ (w = "OPTIONS" ∨ w = "COMMENT") then columnOption g inner else pure none
  let type ← if g.columnar then some <$> dataType g inner else pure none
  return ⟨i, type, options.getD []⟩

/-- The columns of a view between parentheses, or nothing. -/
def viewColumns (g : Grammar) (inner : Inner) : Reader (List ViewColumn) := do
  if ← symbol "(" then
    if ← symbol ")" then return []
    let cs ← commaList (viewColumn g inner)
    expect ")"
    return cs
  return []

/-- A definition after `CREATE … VIEW`; the words stand between the two. Options in parentheses
replace parameters. -/
def viewDefinition (g : Grammar) (inner : Inner) (start : String) : Reader Statement := do
  let absent ← if g.extended then ifNotExists else pure false
  let n ← name
  let columns ← viewColumns g inner
  let parameters ← propertiesAfter g inner "WITH"
  let clustering ← afterWords ["CLUSTER", "BY"] optionalIdentList
  let options ← if g.extended then propertiesAfter g inner "OPTIONS" else pure []
  let target ← after "TO" name
  let comment ←
    if g.extended then after "COMMENT" do
      expect "="
      quotedText
    else pure none
  expectWord "AS"
  let query ← inner.query
  let unbound ← if g.extended then words ["WITH", "NO", "SCHEMA", "BINDING"] else pure false
  return .createView {
    words := start, ifNotExists := absent, name := n, target, comment
    parameters := if options.isEmpty then parameters else []
    columns, clustering := clustering.getD [], options, query, unbound }

/-! ### Indexes and sequences -/

/-- A definition after `CREATE … INDEX`; the words stand between the two. -/
def indexDefinition (g : Grammar) (inner : Inner) (start : String) : Reader Statement := do
  let concurrently ← word "CONCURRENTLY"
  let absent ← ifNotExists
  let nameless ← if absent then pure false else word "ON"
  let n ← if nameless then pure none else do
    let n ← name
    expectWord "ON"
    pure (some n)
  let table ← name
  let method ← after "USING" ident
  let keys ← inParens (commaList (sortKey inner))
  let included ← after "INCLUDE" identList
  let nullsDistinct ← after "NULLS" do
    let negated ← word "NOT"
    expectWord "DISTINCT"
    return !negated
  let parameters ←
    if g.extended then after "WITH" (inParens (commaList (inner.expr 0))) else pure none
  let condition ← after "WHERE" (inner.expr 0)
  return .createIndex {
    words := start ++ "INDEX " ++ wordIf concurrently "CONCURRENTLY" ++ wordIf absent "IF NOT EXISTS"
    name := n, table, method, keys, included := included.getD [], nullsDistinct
    parameters := parameters.getD [], condition }

/-- A definition after `CREATE … SEQUENCE`; the words stand between the two. -/
def sequenceDefinition (g : Grammar) (inner : Inner) (start : String) : Reader (List Expr) := do
  let absent ← ifNotExistsText
  let n ← name
  let type ← after "AS" (dataType g inner)
  let options ← sequenceOptions
  let owner ← afterWords ["OWNED", "BY"] do
    if ← word "NONE" then return "NONE" else return Name.text (← name)
  return plain ("CREATE " ++ start ++ "SEQUENCE " ++ absent ++ Name.text n ++
      textClause " AS " (type.map DataType.text)) ++
    options ++ optionalPlain (owner.map ("OWNED BY " ++ ·))

/-! ### Smaller definitions -/

def extensionDefinition : Reader (List Expr) := do
  let absent ← ifNotExistsText
  let i ← ident
  let hasClauses ← word "WITH"
  let schema ← if hasClauses then after "SCHEMA" ident else pure none
  let version ← if hasClauses then after "VERSION" ident else pure none
  let cascade ← if hasClauses then word "CASCADE" else pure false
  return plain ("CREATE EXTENSION " ++ absent ++ i.text ++
    (if schema.isSome || version.isSome || cascade then " WITH" else "") ++
    identClause " SCHEMA " schema ++ identClause " VERSION " version ++
    if cascade then " CASCADE" else "")

def virtualTable : Reader (List Expr) := do
  expectWord "TABLE"
  let absent ← ifNotExistsText
  let n ← name
  expectWord "USING"
  let module_ ← ident
  let columns ← optionalIdentList
  return plain ("CREATE VIRTUAL TABLE " ++ absent ++ Name.text n ++ " USING " ++ module_.text ++
    if columns.isEmpty then "" else " " ++ columnList columns)

def schemaDefinition : Reader (List Expr) := do
  let absent ← ifNotExistsText
  let owner := after "AUTHORIZATION" ident
  match ← owner with
  | some i => return plain ("CREATE SCHEMA " ++ absent ++ "AUTHORIZATION " ++ i.text)
  | none =>
    let n ← name
    return plain ("CREATE SCHEMA " ++ absent ++ Name.text n ++
      identClause " AUTHORIZATION " (← owner))

/-- Where a database is kept; of several places of one kind the last one holds. -/
def databasePlaces (g : Grammar) : Reader (List (String × String)) := collect do
  match ← oneOf ["LOCATION", "MANAGEDLOCATION"] with
  | some w => return some (w, ← literal g)
  | none => return none

def databaseDefinition (g : Grammar) : Reader (List Expr) := do
  let absent ← ifNotExistsText
  let n ← name
  let places ← databasePlaces g
  let place (w : String) : List Expr :=
    optionalPlain ((places.reverse.lookup w).map fun s => w ++ " '" ++ s ++ "'")
  return plain ("CREATE DATABASE " ++ absent ++ Name.text n) ++ place "LOCATION" ++
    place "MANAGEDLOCATION"

def roleDefinition : Reader (List Expr) := do
  let absent ← ifNotExistsText
  let ns ← commaList name
  let _ ← word "WITH"
  return plain ("CREATE ROLE " ++ absent ++ commas (ns.map Name.text))

/-- A part of a record type that gets a name. -/
def typeAttribute (g : Grammar) (inner : Inner) : Reader String := do
  let i ← ident
  let type ← dataType g inner
  return i.text ++ " " ++ type.text ++ nameClause " COLLATE " (← after "COLLATE" name)

/-- The parts of a record type up to a closing parenthesis, at most `fuel` of them; a comma may stand
after the last one. -/
def typeAttributes (g : Grammar) (inner : Inner) : (fuel : Nat) → Reader (List String)
  | 0 => refuse
  | fuel + 1 => do
    let a ← typeAttribute g inner
    let more ← symbol ","
    if ← symbol ")" then return [a]
    unless more do refuse
    return a :: (← typeAttributes g inner fuel)

def typeDefinition (g : Grammar) (inner : Inner) : Reader (List Expr) := do
  let n ← name
  expectWord "AS"
  let hasParts ← if ← symbol "(" then not <$> symbol ")" else pure false
  let parts ← if hasParts then typeAttributes g inner ((← remaining) + 1) else pure []
  return plain ("CREATE TYPE " ++ Name.text n ++ " AS " ++ parens (commas parts))

/-- The name of an owner. -/
def owner : Reader String := do
  match ← oneOf ["CURRENT_USER", "CURRENT_ROLE", "SESSION_USER"] with
  | some w => return w
  | none => return (← ident).text

/-- Whom a policy is for, the condition on rows that are seen, and the one on rows that are written. -/
def policyClauses (inner : Inner) : Reader (List Expr) := do
  let owners ← after "TO" (commaList owner)
  let condition (ws : List String) : Reader (List Expr) := do
    let e ← afterWords ws (inParens (inner.expr 0))
    return (e.map fun e => .phrase (" ".intercalate ws) [.nested e]).toList
  let seen ← condition ["USING"]
  let written ← condition ["WITH", "CHECK"]
  return optionalPlain (owners.map fun os => "TO " ++ commas os) ++ seen ++ written

/-- The name of a policy and its table. -/
def policyName : Reader String := do
  let i ← ident
  expectWord "ON"
  return i.text ++ " ON " ++ Name.text (← name)

def policyDefinition (inner : Inner) : Reader (List Expr) := do
  let n ← policyName
  let kind ← after "AS" (expectOneOf ["PERMISSIVE", "RESTRICTIVE"])
  let change ← after "FOR" (expectOneOf ["ALL", "SELECT", "INSERT", "UPDATE", "DELETE"])
  return plain ("CREATE POLICY " ++ n ++ textClause " AS " kind ++ textClause " FOR " change) ++
    (← policyClauses inner)

/-- An identifier. A token in its place is taken and says nothing. -/
def identIfAny : Reader (Option Ident) := do
  match ← attempt ident with
  | some i => return some i
  | none =>
    let _ ← attempt take
    return none

/-- A definition after `CREATE … SECRET`; the words stand between the two. -/
def secretDefinition (start : String) : Reader (List Expr) := do
  let absent ← ifNotExistsText
  let n ←
    if ← isSymbol "(" then pure none
    else if (← peekKeyword) = "IN" then pure none
    else identIfAny
  let place ← if ← word "IN" then identIfAny else pure none
  expect "("
  expectWord "TYPE"
  let type ← ident
  let options ← afterComma (commaList do
    let key ← ident
    return key.text ++ " " ++ (← ident).text)
  expect ")"
  return plain ("CREATE " ++ start ++ "SECRET " ++ absent ++
    (n.map fun i => i.text ++ " ").getD "" ++ (place.map fun i => "IN " ++ i.text ++ " ").getD "" ++
    "( TYPE " ++ type.text ++ String.join ((options.getD []).map (", " ++ ·)) ++ " )")

/-! ### All definitions -/

/-- A statement after `CREATE`, where `body` reads the statements of a procedure. The words before the
kind of thing hold for tables, views, routines and sequences, each of which uses some of them. -/
def create (g : Grammar) (inner : Inner) (body : Reader (List Statement)) : Reader Statement := do
  let orReplace ← words ["OR", "REPLACE"]
  let orAlter ← words ["OR", "ALTER"]
  let isLocal ← word "LOCAL"
  let isGlobal ← word "GLOBAL"
  let transient ← word "TRANSIENT"
  let temporary := (← oneOf ["TEMP", "TEMPORARY"]).isSome
  let scope := if isGlobal then "GLOBAL " else if isLocal then "LOCAL " else ""
  let replaceText := wordIf orReplace "OR REPLACE"
  let temporaryText := wordIf temporary "TEMPORARY"
  if ← word "TABLE" then
    tableDefinition g inner (replaceText ++ scope ++ temporaryText ++ wordIf transient "TRANSIENT")
  else
  let materialized ← word "MATERIALIZED"
  if ← word "VIEW" then
    viewDefinition g inner (replaceText ++ wordIf materialized "MATERIALIZED" ++ temporaryText)
  else if materialized then refuse
  else if ← word "POLICY" then .command <$> policyDefinition inner
  else if ← word "EXTERNAL" then externalTable g inner orReplace
  else if g.extended && (← word "FUNCTION") then
    .command <$> functionDefinition g inner (replaceText ++ temporaryText)
  else if g.extended && (← word "TRIGGER") then .command <$> triggerDefinition g inner replaceText
  else if g.extended && (← words ["CONSTRAINT", "TRIGGER"]) then
    .command <$> triggerDefinition g inner (replaceText ++ "CONSTRAINT ")
  else if g.extended && (← word "MACRO") then
    macroDefinition inner (replaceText ++ temporaryText)
  else if ← word "SECRET" then .command <$> secretDefinition (replaceText ++ temporaryText)
  else if orReplace then refuse
  else if ← word "EXTENSION" then .command <$> extensionDefinition
  else if ← word "INDEX" then indexDefinition g inner ""
  else if ← words ["UNIQUE", "INDEX"] then indexDefinition g inner "UNIQUE "
  else if ← word "VIRTUAL" then .command <$> virtualTable
  else if ← word "SCHEMA" then .command <$> schemaDefinition
  else if ← word "DATABASE" then .command <$> databaseDefinition g
  else if ← word "ROLE" then .command <$> roleDefinition
  else if ← word "SEQUENCE" then .command <$> sequenceDefinition g inner temporaryText
  else if ← word "TYPE" then .command <$> typeDefinition g inner
  else if ← word "PROCEDURE" then
    procedureDefinition g inner body (wordIf orAlter "OR ALTER")
  else refuse

end SqlDialect.Sql.Reader
