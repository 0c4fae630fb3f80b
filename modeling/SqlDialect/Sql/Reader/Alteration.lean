import SqlDialect.Sql.Reader.Definition
/-!
# Reading alterations

What follows `ALTER`, `DROP`, `TRUNCATE`, `DELETE`, `MERGE` and `OPTIMIZE`.
-/

namespace SqlDialect.Sql.Reader

/-! ### Changes to tables -/

/-- Expressions between parentheses, one at least. -/
def exprList (inner : Inner) : Reader (List Expr) := inParens (commaList (inner.expr 0))

/-- A partition by its values, with the words before it. -/
def partitionPhrase (inner : Inner) (words : String) : Reader Expr := do
  return .phrase words [.tuple (← exprList inner)]

/-- A place among the columns, or nothing. -/
def columnPlace (g : Grammar) : Reader String := do
  if g.extended then
    if ← word "FIRST" then return " FIRST"
    if ← word "AFTER" then return " AFTER " ++ (← ident).text
  return ""

/-- The selection of a projection between parentheses. -/
def projectionSelect (g : Grammar) (inner : Inner) : Reader Expr := inParens do
  expectWord "SELECT"
  let items ← commaList (resultColumn g inner)
  let group ← grouping g inner
  let order ← orderBy inner
  return .subquery (.mk false [] (.select false none none items none [] [] none none group.all
    group.keys group.modifiers [] [] [] none []) order none none none "" [] [] none [] none)

def newProjection (g : Grammar) (inner : Inner) : Reader Expr := do
  let absent ← ifNotExistsText
  let i ← ident
  return .phrase ("ADD PROJECTION " ++ absent ++ i.text) [← projectionSelect g inner]

/-- A change after `ADD`. Where a grammar does not know whether a column is there already, the words
that ask for it say nothing. -/
def addition (g : Grammar) (inner : Inner) : Reader TableChange := do
  match ← constraint g inner with
  | some c => return .other (plain "ADD" ++ c)
  | none => pure ()
  if ← word "PROJECTION" then return .other [← newProjection g inner]
  let absent ← ifNotExists
  match ← collect (after "PARTITION" (partitionPhrase inner "PARTITION")) with
  | p :: ps => return .other (plain (if absent then "ADD IF NOT EXISTS" else "ADD") ++ p :: ps)
  | [] =>
    let columnWord ← word "COLUMN"
    let absent ← if g.extended then (· || absent) <$> ifNotExists else pure false
    let column ← columnDef g inner
    return .addColumn columnWord absent column (← columnPlace g)

def rename : Reader TableChange := do
  if ← word "TO" then return .renameTable (← name)
  let _ ← word "COLUMN"
  let old ← ident
  expectWord "TO"
  return .renameColumn old (← ident)

/-- A rule, a trigger or the security of rows, after the word `w` that turns it on or off. -/
def switch (w : String) : Reader TableChange := do
  if ← words ["ROW", "LEVEL", "SECURITY"] then
    return .other (plain (w ++ " ROW LEVEL SECURITY"))
  let when_ ← if w = "ENABLE" then oneOf ["ALWAYS", "REPLICA"] else pure none
  let kind ← expectOneOf ["RULE", "TRIGGER"]
  return .other (plain (w ++ textClause " " when_ ++ " " ++ kind ++ " " ++ (← ident).text))

/-- The data of a projection, after the word `w` for what is done with them. -/
def projectionData (w : String) : Reader TableChange := do
  expectWord "PROJECTION"
  let present ← ifExistsText
  let i ← ident
  let partition ← afterWords ["IN", "PARTITION"] ident
  return .other (plain (w ++ " PROJECTION " ++ present ++ i.text ++
    identClause " IN PARTITION " partition))

/-- A change after `DROP`. -/
def removal (g : Grammar) (inner : Inner) : Reader TableChange := do
  if ← words ["IF", "EXISTS", "PARTITION"] then
    return .other [← partitionPhrase inner "DROP IF EXISTS PARTITION"]
  if ← word "PARTITION" then return .other [← partitionPhrase inner "DROP PARTITION"]
  if ← word "CONSTRAINT" then
    let present ← ifExistsText
    let i ← ident
    return .other (plain ("DROP CONSTRAINT " ++ present ++ i.text ++
      if ← word "CASCADE" then " CASCADE" else ""))
  -- without a key that can be dropped, its words say nothing
  if (← words ["PRIMARY", "KEY"]) && g.extended then return .other (plain "DROP PRIMARY KEY")
  if ← word "PROJECTION" then
    let present ← ifExistsText
    return .other (plain ("DROP PROJECTION " ++ present ++ (← ident).text))
  let _ ← word "COLUMN"
  let present ← ifExists
  let i ← ident
  return .dropColumn present i (← word "CASCADE")

/-- A column that gets another type, after the words up to its name. -/
def redefinition (g : Grammar) (inner : Inner) (start : String) : Reader TableChange := do
  let type ← dataType g inner
  let options ← collect (columnOption g inner)
  return .redefineColumn start type options.flatten (← columnPlace g)

/-- A change to one property of a column after `ALTER`. -/
def columnChange (g : Grammar) (inner : Inner) : Reader TableChange := do
  let _ ← word "COLUMN"
  let start := "ALTER COLUMN " ++ (← ident).text ++ " "
  if ← words ["SET", "NOT", "NULL"] then return .other (plain (start ++ "SET NOT NULL"))
  if ← words ["DROP", "NOT", "NULL"] then return .other (plain (start ++ "DROP NOT NULL"))
  if ← words ["SET", "DEFAULT"] then
    return .other [.phrase (start ++ "SET DEFAULT") [← inner.expr 0]]
  if ← words ["DROP", "DEFAULT"] then return .other (plain (start ++ "DROP DEFAULT"))
  if ← words ["SET", "DATA", "TYPE"] then
    return .other (plain (start ++ "SET DATA TYPE " ++ (← dataType g inner).text))
  expectWords ["ADD", "GENERATED"]
  let when_ ←
    if ← word "ALWAYS" then pure " ALWAYS"
    else if ← words ["BY", "DEFAULT"] then pure " BY DEFAULT"
    else pure ""
  expectWords ["AS", "IDENTITY"]
  return .other (← identityOption (start ++ "ADD GENERATED" ++ when_ ++ " AS IDENTITY"))

/-- A partition or a part of one, after the words for what is done with it. -/
def partOrPartition (inner : Inner) (words : String) : Reader Expr := do
  let w ← expectOneOf ["PART", "PARTITION"]
  return .phrase (words ++ " " ++ w) [← inner.expr 0]

/-- A change after `FREEZE` or `UNFREEZE`. -/
def freeze (inner : Inner) (w : String) : Reader TableChange := do
  let p ← partOrPartition inner w
  let i ← after "WITH" do
    expectWord "NAME"
    ident
  return .other (p :: optionalPlain (i.map fun i => "WITH NAME " ++ i.text))

def tableChange (g : Grammar) (inner : Inner) : Reader TableChange := do
  let start ← take
  match start.keyword with
  | "ADD" => addition g inner
  | "RENAME" => rename
  | "DISABLE" => switch "DISABLE"
  | "ENABLE" => switch "ENABLE"
  | "CLEAR" => projectionData "CLEAR"
  | "MATERIALIZE" => projectionData "MATERIALIZE"
  | "DROP" => removal g inner
  | "PARTITION" => do
    let old ← partitionPhrase inner "PARTITION"
    expectWords ["RENAME", "TO", "PARTITION"]
    return .other [old, ← partitionPhrase inner "RENAME TO PARTITION"]
  | "CHANGE" => do
    let _ ← word "COLUMN"
    let old ← ident
    let new ← ident
    redefinition g inner ("CHANGE COLUMN " ++ old.text ++ " " ++ new.text)
  | "MODIFY" => do
    let _ ← word "COLUMN"
    redefinition g inner ("MODIFY COLUMN " ++ (← ident).text)
  | "ALTER" => columnChange g inner
  | "SWAP" => do
    expectWord "WITH"
    return .other (plain ("SWAP WITH " ++ Name.text (← name)))
  | "OWNER" => do
    unless g.extended do refuse
    expectWord "TO"
    return .other (plain ("OWNER TO " ++ (← owner)))
  | "ATTACH" => do return .other [← partOrPartition inner "ATTACH"]
  | "DETACH" => do return .other [← partOrPartition inner "DETACH"]
  | "FREEZE" => freeze inner "FREEZE"
  | "UNFREEZE" => freeze inner "UNFREEZE"
  | "SET" => do
    expectWord "TBLPROPERTIES"
    match ← properties g inner with
    | [] => refuse
    | ps => return .other [.phrase "SET" [.call [⟨"TBLPROPERTIES", none⟩] "" ps []]]
  | _ => refuse

/-- A place for the files of a table that is given after the changes, or nothing. -/
def newLocation : Reader String := do
  let set ← words ["SET", "LOCATION"]
  if ← (if set then pure true else word "LOCATION") then
    return " " ++ wordIf set "SET" ++ "LOCATION " ++ (← ident).text
  return ""

def alterPolicy (inner : Inner) : Reader Statement := do
  let n ← policyName
  if ← word "RENAME" then
    expectWord "TO"
    return .command (plain ("ALTER POLICY " ++ n ++ " RENAME TO " ++ (← ident).text))
  return .command (plain ("ALTER POLICY " ++ n) ++ (← policyClauses inner))

def alter (g : Grammar) (inner : Inner) : Reader Statement := do
  match ← expectOneOf ["VIEW", "TABLE", "INDEX", "POLICY"] with
  | "VIEW" =>
    let n ← name
    let columns ← optionalIdentList
    let parameters ← propertiesAfter g inner "WITH"
    expectWord "AS"
    return .alterView n parameters columns (← inner.query)
  | "TABLE" =>
    let present ← ifExistsText
    let only ← word "ONLY"
    let n ← name
    let cluster ← onCluster
    let changes ← commaList (tableChange g inner)
    return .alterTable (present ++ wordIf only "ONLY") n cluster changes (← newLocation)
  | "INDEX" =>
    let n ← name
    expectWords ["RENAME", "TO"]
    return .command (plain ("ALTER INDEX " ++ Name.text n ++ " RENAME TO " ++ Name.text (← name)))
  | _ => alterPolicy inner

/-! ### Removals -/

/-- The kinds of things that are dropped by their names. -/
def droppable : List String :=
  ["TABLE", "VIEW", "INDEX", "ROLE", "SCHEMA", "DATABASE", "SEQUENCE", "STAGE", "TYPE"]

/-- Whether things that depend on a dropped one are dropped too. -/
def dropBehavior : Reader (List Expr) := do
  return optionalPlain (← oneOf ["CASCADE", "RESTRICT"])

/-- Functions or procedures after `DROP` and the word `w` for them. -/
def dropFunctions (g : Grammar) (inner : Inner) (w : String) : Reader Statement := do
  let present ← ifExists
  let fs ← commaList (signature g inner)
  return .command (.phrase ("DROP " ++ w ++ if present then " IF EXISTS" else "") fs ::
    (← dropBehavior))

def dropTrigger : Reader Statement := do
  let present ← ifExistsText
  let n ← name
  expectWord "ON"
  let table ← name
  return .command (plain ("DROP TRIGGER " ++ present ++ Name.text n ++ " ON " ++ Name.text table) ++
    (← dropBehavior))

def dropPolicy : Reader Statement := do
  let present ← ifExistsText
  return .command (plain ("DROP POLICY " ++ present ++ (← policyName)) ++ (← dropBehavior))

/-- A secret after `DROP … SECRET`; the words stand between the two. -/
def dropSecret (start : String) : Reader Statement := do
  let present ← ifExistsText
  let i ← ident
  let place ← if ← word "FROM" then identIfAny else pure none
  return .command (plain ("DROP " ++ start ++ "SECRET " ++ present ++ i.text ++
    identClause " FROM " place))

def drop (g : Grammar) (inner : Inner) : Reader Statement := do
  let temporary ← if g.extended then word "TEMPORARY" else pure false
  match ← oneOf ["FUNCTION", "PROCEDURE"] with
  | some w => dropFunctions g inner w
  | none =>
    if ← word "POLICY" then return ← dropPolicy
    if ← word "SECRET" then return ← dropSecret (wordIf temporary "TEMPORARY")
    if g.extended && (← word "TRIGGER") then return ← dropTrigger
    let kind ← expectOneOf droppable
    let present ← ifExists
    let names ← commaList name
    let cascade ← word "CASCADE"
    let restrict ← word "RESTRICT"
    let purge ← word "PURGE"
    if cascade && restrict then refuse
    if kind = "ROLE" ∧ (cascade || restrict || purge) then refuse
    return .drop (wordIf temporary "TEMPORARY" ++ kind) present names
      ((if cascade then " CASCADE" else "") ++ (if restrict then " RESTRICT" else "") ++
        if purge then " PURGE" else "")

def truncate (g : Grammar) (inner : Inner) : Reader Statement := do
  let tableWord ← word "TABLE"
  let only ← word "ONLY"
  let names ← commaList name
  let partition ← after "PARTITION" (exprList inner)
  let identity ←
    if !g.extended then pure ""
    else if ← words ["RESTART", "IDENTITY"] then pure " RESTART IDENTITY"
    else if ← words ["CONTINUE", "IDENTITY"] then pure " CONTINUE IDENTITY"
    else pure ""
  let cascade ← if g.extended then oneOf ["CASCADE", "RESTRICT"] else pure none
  return .truncate (wordIf tableWord "TABLE" ++ wordIf only "ONLY") names
    (identity ++ textClause " " cascade) (partition.getD []) (← onCluster)

def delete (g : Grammar) (inner : Inner) : Reader Statement := do
  let fromFirst ← word "FROM"
  let tables ← if fromFirst || g.extended then pure [] else commaList name
  let fromLater ← if fromFirst || g.extended then pure false else do
    expectWord "FROM"
    pure true
  let sources ← commaList (source g inner)
  let others ← after "USING" (commaList (source g inner))
  let condition ← after "WHERE" (inner.expr 0)
  let result ← returning g inner
  let order ← orderBy inner
  let limit ← after "LIMIT" (limitValue inner)
  return .delete tables (fromFirst || fromLater) sources (others.getD []) condition result order
    limit.join

/-! ### Merges -/

def mergeRows (g : Grammar) (inner : Inner) : Reader (List Expr) := do
  if g.extended && (← word "ROW") then return plain "ROW"
  expectWord "VALUES"
  match ← values inner with
  | .values rowWord rows =>
    return [.phrase "VALUES" (rows.map fun es =>
      if rowWord then .call [⟨"ROW", none⟩] "" es [] else .tuple es)]
  | _ => refuse

/-- What a merge does with rows after `THEN`. Rows of the source that match none can only be inserted,
all others only be changed or deleted. -/
def mergeAction (g : Grammar) (inner : Inner) (start : String) (insertable : Bool) :
    Reader (List Expr) := do
  let w ← expectOneOf ["UPDATE", "DELETE", "INSERT"]
  if (w = "INSERT") ≠ insertable then refuse
  if w = "UPDATE" then
    expectWord "SET"
    return [.phrase (start ++ "THEN UPDATE SET") (← commaList (assignment inner))]
  else if w = "DELETE" then return plain (start ++ "THEN DELETE")
  else
    let columns ← optionalIdentList
    return plain (start ++ "THEN INSERT" ++
      if columns.isEmpty then "" else " " ++ columnList columns) ++ (← mergeRows g inner)

/-- A clause of a merge, or nothing at the end of the statement. -/
def mergeClause (g : Grammar) (inner : Inner) : Reader (Option (List Expr)) := do
  if (← peek).isNone || (← isSymbol ";") then return none
  expectWord "WHEN"
  let unmatched ← word "NOT"
  expectWord "MATCHED"
  let side ←
    if !unmatched then pure ""
    else if ← words ["BY", "SOURCE"] then pure " BY SOURCE"
    else if ← words ["BY", "TARGET"] then pure " BY TARGET"
    else pure ""
  let start := "WHEN " ++ wordIf unmatched "NOT" ++ "MATCHED" ++ side
  let insertable := unmatched && side != " BY SOURCE"
  match ← after "AND" (inner.expr 0) with
  | some e =>
    expectWord "THEN"
    return some (.phrase (start ++ " AND") [e] :: (← mergeAction g inner "" insertable))
  | none =>
    expectWord "THEN"
    return some (← mergeAction g inner (start ++ " ") insertable)

def merge (g : Grammar) (inner : Inner) : Reader Statement := do
  let intoWord ← word "INTO"
  let target ← factor g inner
  expectWord "USING"
  let rows ← factor g inner
  expectWord "ON"
  let on ← inner.expr 0
  return .merge intoWord target rows on (← collect (mergeClause g inner)).flatten

def optimize (inner : Inner) : Reader Statement := do
  expectWord "TABLE"
  let n ← name
  let cluster ← onCluster
  let partition ← after "PARTITION" do
    if ← word "ID" then return .phrase "ID" [.ident (← ident)] else inner.expr 0
  let final ← word "FINAL"
  let deduplicate ← after "DEDUPLICATE" (after "BY" (inner.expr 0))
  return .optimize n cluster partition final deduplicate

end SqlDialect.Sql.Reader
