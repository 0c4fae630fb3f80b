import SqlDialect.Sql.Reader.Source
/-!
# Reading queries

A query is a body with common tables before it, and order and limits after it. A body is a
selection, a query between parentheses, rows, a table, or two bodies joined by a set operation. An
`INSERT` or `UPDATE` may stand in the place of a body.
-/

namespace SqlDialect.Sql.Reader

/-! ### Result columns -/

/-- An identifier, or several between parentheses. -/
def oneOrMore : Reader (Bool × List Ident) := do
  if ← isSymbol "(" then return (true, ← identList) else return (false, [← ident])

/-- A column with a new name after `RENAME`. -/
def renamedColumn : Reader Expr := do
  let i ← ident
  expectWord "AS"
  return .aliased (.ident i) (← ident)

/-- A column with another value after `REPLACE`. -/
def replacedColumn (inner : Inner) : Reader Expr := do
  let e ← inner.expr 0
  if ← word "AS" then return .aliased e (← ident)
  return .followed e (← ident).text

/-- How the columns of a wildcard differ from all columns: a pattern for their names or columns left
out, columns with other values, and columns with other names. -/
def wildcardPhrases (g : Grammar) (inner : Inner) : Reader (List Expr) := do
  let like ← if g.extended then after "ILIKE" quotedText else pure none
  let exclude ← if g.extended && like.isNone then after "EXCLUDE" oneOrMore else pure none
  let except ← after "EXCEPT" oneOrMore
  let replace ← after "REPLACE" (inParens (commaList (replacedColumn inner)))
  let rename ←
    if g.extended then after "RENAME" do
      if ← isSymbol "(" then Expr.tuple <$> inParens (commaList renamedColumn) else renamedColumn
    else pure none
  return (like.map fun s => .phrase ("ILIKE " ++ enclose '\'' s) []).toList ++
    (exclude.map fun (many, is) =>
      .phrase "EXCLUDE" [if many then .tuple (is.map .ident) else .phrase "" (is.map .ident)]).toList ++
    (except.map fun (_, is) => .phrase "EXCEPT" [.tuple (is.map .ident)]).toList ++
    (replace.map fun es => .phrase "REPLACE" [.tuple es]).toList ++
    (rename.map fun e => .phrase "RENAME" [e]).toList

def resultColumn (g : Grammar) (inner : Inner) : Reader Expr := do
  match ← attempt wildcard with
  | some table => return .wildcard table (← wildcardPhrases g inner)
  | none =>
    match ← inner.expr 0 with
    | .ident ⟨value, none⟩ =>
      if value.toList.map Text.lowerAscii = "from".toList then refuse
      else named (.ident ⟨value, none⟩)
    | e => named e
where
  /-- An expression with its name. -/
  named (e : Expr) : Reader Expr := do
    match ← optionalName columnReserved with
    | some i => return .aliased e i
    | none => return e

/-- Result columns after `RETURNING`, or nothing. -/
def returning (g : Grammar) (inner : Inner) : Reader (List Expr) := do
  return (← after "RETURNING" (commaList (resultColumn g inner))).getD []

/-! ### Selections -/

/-- How many rows at most after `TOP`. -/
def top (inner : Inner) : Reader Expr := do
  let amount : Expr ←
    if ← symbol "(" then
      let e ← inner.expr 0
      expect ")"
      pure (.phrase "TOP" [.nested e])
    else (fun n => .phrase ("TOP " ++ n) []) <$> natural
  let percent ← word "PERCENT"
  let ties ← words ["WITH", "TIES"]
  return if percent then .followed amount (if ties then "PERCENT WITH TIES" else "PERCENT")
    else if ties then .followed amount "WITH TIES"
    else amount

def into : Reader Into := do
  let temporary ← oneOf ["TEMP", "TEMPORARY"]
  let unlogged ← word "UNLOGGED"
  let table ← word "TABLE"
  return ⟨temporary.isSome, unlogged, table, ← name⟩

/-- Expressions between parentheses, which may be none. -/
def exprTuple (inner : Inner) : Reader (List Expr) := do
  expect "("
  if ← symbol ")" then return []
  let es ← commaList (inner.expr 0)
  expect ")"
  return es

/-- One expression, or several between parentheses. -/
def groupingSet (inner : Inner) : Reader (List Expr) := do
  if ← isSymbol "(" then exprTuple inner else return [← inner.expr 0]

/-- What rows are grouped by: an expression or several groupings at once. -/
def groupKey (g : Grammar) (inner : Inner) : Reader Expr := do
  if !g.extended then inner.expr 0
  else if ← words ["GROUPING", "SETS"] then
    .grouping "GROUPING SETS" <$> inParens (commaList (exprTuple inner))
  else
    match ← oneOf ["CUBE", "ROLLUP"] with
    | some w => .grouping w <$> inParens (commaList (groupingSet inner))
    | none =>
      match ← peek, ← peekAt 1 with
      | some (.symbol "("), some (.symbol ")") => .tuple <$> exprTuple inner
      | _, _ => inner.expr 0

/-- A word after `GROUP BY … WITH`. -/
def groupModifier : Reader (Option String) := do
  if ← word "WITH" then some <$> expectOneOf ["ROLLUP", "CUBE", "TOTALS"] else pure none

structure Grouping where
  all : Bool := false
  keys : List Expr := []
  modifiers : List String := []

def grouping (g : Grammar) (inner : Inner) : Reader Grouping := do
  unless ← words ["GROUP", "BY"] do return {}
  let all ← word "ALL"
  let keys ← if all then pure [] else commaList (groupKey g inner)
  return { all, keys, modifiers := ← collect groupModifier }

/-- Windows and the condition on them, in either order. -/
def windowPhrases (g : Grammar) (inner : Inner) : Reader (List Expr) := do
  let windows : Reader (List Expr) := do
    return ((← after "WINDOW" (commaList (windowDefinition g inner))).map
      fun ws => .phrase "WINDOW" ws).toList
  match ← windows with
  | [] =>
    match ← clause inner "QUALIFY" with
    | [] => return []
    | qualify => return qualify ++ (← windows)
  | ws => return ws ++ (← clause inner "QUALIFY")

/-- Expressions after two words, or nothing. -/
def listAfter (inner : Inner) (ws : List String) : Reader (List Expr) := do
  return (← afterWords ws (commaList (inner.expr 0))).getD []

/-- Words that end the names of the columns of a view. -/
def viewReserved : List String := ["WHERE", "GROUP", "CLUSTER", "HAVING", "LATERAL"]

/-- Rows that a function makes from each row, after `LATERAL VIEW`, or nothing. -/
def lateralView (inner : Inner) : Reader (Option Expr) := afterWords ["LATERAL", "VIEW"] do
  let outer ← word "OUTER"
  let e ← inner.expr 0
  let n ← name
  let columns ← commaList (optionalName viewReserved)
  return .phrase ("LATERAL VIEW" ++ if outer then " OUTER" else "")
    [.followed e (Name.text n ++ listClause " AS " (columns.reduceOption.map Ident.text))]

/-- How rows form a hierarchy, or nothing: the condition on its roots, and the relations of a row to
the one above it. -/
def hierarchy (inner : Inner) : Reader (List Expr) := do
  let roots : Reader Expr := do
    expectWords ["START", "WITH"]
    return .phrase "START WITH" [← inner.expr 0]
  let relations : Reader Expr := do
    expectWords ["CONNECT", "BY"]
    return .phrase "CONNECT BY" (← inner.relations ())
  match ← peekKeyword with
  | "START" => do
    let first ← roots
    return [first, ← relations]
  | "CONNECT" => do
    let second ← relations
    return [← roots, second]
  | _ => return []

def selection (g : Grammar) (inner : Inner) : Reader Body := do
  let all ← word "ALL"
  let distinct ← word "DISTINCT"
  if all && distinct then refuse
  let on ← if distinct then after "ON" (exprTuple inner) else pure none
  let top ← after "TOP" (top inner)
  let items ← commaList (resultColumn g inner)
  let target ← after "INTO" into
  let sources ← after "FROM" (commaList (source g inner))
  let views ← collect (lateralView inner)
  let prewhere ← after "PREWHERE" (inner.expr 0)
  let condition ← after "WHERE" (inner.expr 0)
  let group ← grouping g inner
  let cluster ← listAfter inner ["CLUSTER", "BY"]
  let distribute ← listAfter inner ["DISTRIBUTE", "BY"]
  let sort ← listAfter inner ["SORT", "BY"]
  let having ← after "HAVING" (inner.expr 0)
  let windows ← windowPhrases g inner
  let levels ← if g.extended then hierarchy inner else pure []
  return .select distinct on top items target (sources.getD []) views prewhere condition group.all
    group.keys group.modifiers cluster distribute sort having (windows ++ levels)

/-- A table after `TABLE`, which is the next word. Three tokens are taken: with a period between two
words both are the name, else the last two say nothing. -/
def tableBody : Reader Body := do
  let first ← take
  let second ← attempt take
  let third ← attempt take
  match first, second, third with
  | .word schema _, some (.symbol "."), some (.word table _) =>
    return .table (schema ++ "." ++ table)
  | _, some (.symbol "."), _ => refuse
  | .word table _, _, _ => return .table table
  | _, _, _ => refuse

/-- A body without set operations. -/
def simpleBody (g : Grammar) (inner : Inner) : Reader Body := do
  if ← word "SELECT" then selection g inner
  else if ← symbol "(" then
    let q ← inner.query
    expect ")"
    return .query q
  else if ← word "VALUES" then values inner
  else if ← word "TABLE" then tableBody
  else refuse

def setLevel (w : String) : Nat :=
  if w = "UNION" ∨ w = "EXCEPT" then 10 else if w = "INTERSECT" then 20 else 0

/-- What is written between a set operation and its second body. -/
def quantifier (op : String) : Reader String := do
  if op = "UNION" then
    if ← words ["DISTINCT", "BY", "NAME"] then return " DISTINCT BY NAME"
    if ← words ["BY", "NAME"] then return " BY NAME"
    if ← words ["ALL", "BY", "NAME"] then return " ALL BY NAME"
  return textClause " " (← oneOf ["ALL", "DISTINCT"])

/-- A body with all set operations above a level, at most `fuel` of them. -/
def setsAbove (g : Grammar) (inner : Inner) : (fuel : Nat) → (level : Nat) → Body → Reader Body
  | 0, _, _ => refuse
  | fuel + 1, level, l => do
    let op ← peekKeyword
    if setLevel op ≤ level then return l
    let _ ← take
    let q ← quantifier op
    let r ← simpleBody g inner
    let r ← setsAbove g inner fuel (setLevel op) r
    setsAbove g inner fuel level (.combined l op q r)

def body (g : Grammar) (inner : Inner) : Reader Body := do
  let first ← simpleBody g inner
  setsAbove g inner ((← remaining) + 1) 0 first

/-! ### Changes -/

/-- An equation that assigns to a column, or to several at once. -/
def assignment (inner : Inner) : Reader Expr := do
  let target : Expr ←
    if ← isSymbol "(" then (fun ns => .tuple (ns.map .compound)) <$> inParens (commaList name)
    else .compound <$> name
  expect "="
  return .binary target "=" (← inner.expr 0)

/-- Names for the row that is inserted and for its columns, or nothing. -/
def rowAlias : Reader (List Expr) := do
  if ← word "AS" then
    let n ← name
    let columns ← optionalIdentList
    return [.phrase ("AS " ++ Name.text n ++
      if columns.isEmpty then "" else " " ++ columnList columns) []]
  return []

/-- What is done with rows that are there already, or nothing. -/
def onConflict (inner : Inner) : Reader (List Expr) := do
  unless ← word "ON" do return []
  if ← word "CONFLICT" then
    let target ←
      if ← words ["ON", "CONSTRAINT"] then (fun n => " ON CONSTRAINT " ++ Name.text n) <$> name
      else columnList <$> optionalIdentList
    expectWord "DO"
    if ← word "NOTHING" then return [.phrase ("ON CONFLICT" ++ target ++ " DO NOTHING") []]
    expectWords ["UPDATE", "SET"]
    let assignments ← commaList (assignment inner)
    return .phrase ("ON CONFLICT" ++ target ++ " DO UPDATE SET") assignments ::
      (← clause inner "WHERE")
  expectWords ["DUPLICATE", "KEY", "UPDATE"]
  return [.phrase "ON DUPLICATE KEY UPDATE" (← commaList (assignment inner))]

def fileFormats : List String :=
  ["AVRO", "JSONFILE", "ORC", "PARQUET", "RCFILE", "SEQUENCEFILE", "TEXTFILE"]

/-- A query whose rows go to files, after `INSERT … DIRECTORY`; the words stand before that one. -/
def rowsToFiles (g : Grammar) (inner : Inner) (start : String) : Reader Body := do
  let path ← literal g
  let format ← afterWords ["STORED", "AS"] (expectOneOf fileFormats)
  return .toFiles (start ++ " DIRECTORY '" ++ path ++ "'" ++ textClause " STORED AS " format)
    (← inner.query)

/-- A change after `INSERT`, or after the word `w` that stands for it. -/
def insert (g : Grammar) (inner : Inner) (w : String) : Reader Body := do
  let priority ←
    if g.extended then oneOf ["LOW_PRIORITY", "DELAYED", "HIGH_PRIORITY"] else pure none
  let ignore ← if g.extended then word "IGNORE" else pure false
  let overwrite ← word "OVERWRITE"
  let intoWord ← word "INTO"
  let isLocal ← word "LOCAL"
  if ← word "DIRECTORY" then
    return ← rowsToFiles g inner ("INSERT" ++ (if overwrite then " OVERWRITE" else "") ++
      if isLocal then " LOCAL" else "")
  let tableWord ← word "TABLE"
  let table ← name
  let start := w ++ textClause " " priority ++ (if ignore then " IGNORE" else "") ++
    (if overwrite then " OVERWRITE" else "") ++ (if intoWord then " INTO" else "") ++
    if tableWord then " TABLE" else ""
  let defaults ← words ["DEFAULT", "VALUES"]
  let columns ← if defaults then pure [] else optionalIdentList
  let partition ←
    if defaults then pure none else after "PARTITION" (inParens (commaList (inner.expr 0)))
  let q ← if defaults then pure none else some <$> inner.query
  let row ← if g.extended then rowAlias else pure []
  let conflict ← onConflict inner
  let result ← returning g inner
  return .insert start table columns (partition.getD []) q
    (row ++ conflict ++ if result.isEmpty then [] else [.phrase "RETURNING" result])

/-- A change after `UPDATE`. Where no other source can be used, the word `FROM` says nothing. -/
def update (g : Grammar) (inner : Inner) : Reader Body := do
  let table ← source g inner
  expectWord "SET"
  let assignments ← commaList (assignment inner)
  let hasFrom ← word "FROM"
  let other ← if hasFrom && g.extended then some <$> source g inner else pure none
  let condition ← after "WHERE" (inner.expr 0)
  return .update table assignments other condition (← returning g inner)

/-! ### Queries -/

def cte (inner : Inner) : Reader Cte := do
  let i ← ident
  let columns ← optionalIdentList
  expectWord "AS"
  let q ← inParens inner.query
  return .mk ⟨i, columns⟩ q (← after "FROM" ident)

/-- A value for the rows that fill a gap, or the column that keeps its value. -/
def interpolation (inner : Inner) : Reader Expr := do
  let i ← ident
  match ← after "AS" (inner.expr 0) with
  | some e => return .named i "AS" e
  | none => return .ident i

/-- How gaps between rows are filled after `INTERPOLATE`, or nothing. -/
def interpolate (inner : Inner) : Reader (Option Expr) := after "INTERPOLATE" do
  if ← symbol "(" then
    if ← symbol ")" then return .phrase "INTERPOLATE" [.tuple []]
    let es ← commaList (interpolation inner)
    expect ")"
    return .phrase "INTERPOLATE" [.tuple es]
  return .phrase "INTERPOLATE" []

/-- `LIMIT` and `OFFSET` in either order, each at most once. -/
structure Limits where
  limit : Option Expr := none
  offset : Option Expr := none
  offsetRows : String := ""

/-- A number of rows after `LIMIT`, or all rows. -/
def limitValue (inner : Inner) : Reader (Option Expr) := do
  if ← word "ALL" then return none else some <$> inner.expr 0

/-- One more of `LIMIT` and `OFFSET`. -/
def moreLimits (inner : Inner) (l : Limits) : Reader Limits := do
  let mut l := l
  if l.limit.isNone then
    if ← word "LIMIT" then l := { l with limit := ← limitValue inner }
  if l.offset.isNone then
    if ← word "OFFSET" then
      let e ← inner.expr 0
      let rows ← oneOf ["ROW", "ROWS"]
      l := { l with offset := some e, offsetRows := textClause " " rows }
  match l.limit, l.offset with
  | some e, none =>
    if ← symbol "," then
      return { limit := some (← inner.expr 0), offset := some e }
    return l
  | _, _ => return l

/-- How many rows at most after `FETCH`. -/
def fetch (g : Grammar) : Reader String := do
  let _ ← expectOneOf ["FIRST", "NEXT"]
  let rowWords := ["ROW", "ROWS"]
  let amount ←
    if (← oneOf rowWords).isSome then pure ""
    else do
      let n ← constant g
      let percent ← word "PERCENT"
      let _ ← expectOneOf rowWords
      pure (" " ++ n.text ++ if percent then " PERCENT" else "")
  if ← word "ONLY" then return "FETCH FIRST" ++ amount ++ " ROWS ONLY"
  expectWords ["WITH", "TIES"]
  return "FETCH FIRST" ++ amount ++ " ROWS WITH TIES"

def literalInParens (g : Grammar) : Reader String := inParens (literal g)

/-- The name of the outermost element of a result after `ROOT`, or nothing. -/
def rootOption (g : Grammar) : Reader (Option (String × String)) :=
  after "ROOT" do return ("ROOT", "ROOT('" ++ (← literalInParens g) ++ "')")

/-- An option of a result that is XML. A comma with no option after it says nothing. -/
def xmlOption (g : Grammar) : Reader (Option (String × String)) := afterComma do
  if ← word "ELEMENTS" then return ("ELEMENTS", "ELEMENTS")
  if ← word "BINARY" then
    expectWord "BASE64"
    return ("BINARY", "BINARY BASE64")
  if ← word "TYPE" then return ("TYPE", "TYPE")
  return (← rootOption g).getD ("", "")

/-- An option of a result that is JSON. A comma with no option after it says nothing. -/
def jsonOption (g : Grammar) : Reader (Option (String × String)) := afterComma do
  match ← oneOf ["INCLUDE_NULL_VALUES", "WITHOUT_ARRAY_WRAPPER"] with
  | some w => return (w, w)
  | none => return (← rootOption g).getD ("", "")

/-- The text of options in a fixed order, each written once; of several of a kind the last one
holds. -/
def optionsText (order : List String) (options : List (String × String)) : String :=
  String.join (order.filterMap fun k => (options.reverse.lookup k).map (", " ++ ·))

def resultForm (g : Grammar) : Reader (Option String) := do
  if ← word "BROWSE" then return some "FOR BROWSE"
  if ← word "XML" then
    let w ← expectOneOf ["RAW", "AUTO", "EXPLICIT", "PATH"]
    let named := (w = "RAW" ∨ w = "PATH") && (← isSymbol "(")
    let element ← if named then some <$> literalInParens g else pure none
    let options ← collect (xmlOption g)
    return some ("FOR XML " ++ w ++ textClause "" (element.map fun s => "('" ++ s ++ "')") ++
      optionsText ["BINARY", "TYPE", "ROOT", "ELEMENTS"] options)
  if ← word "JSON" then
    let w ← expectOneOf ["AUTO", "PATH"]
    let options ← collect (jsonOption g)
    return some ("FOR JSON " ++ w ++
      optionsText ["ROOT", "INCLUDE_NULL_VALUES", "WITHOUT_ARRAY_WRAPPER"] options)
  return none

def lock : Reader String := do
  let kind ← expectOneOf ["UPDATE", "SHARE"]
  let table ← after "OF" name
  let wait ←
    if ← word "NOWAIT" then pure " NOWAIT"
    else if ← words ["SKIP", "LOCKED"] then pure " SKIP LOCKED"
    else pure ""
  return "FOR " ++ kind ++ nameClause " OF " table ++ wait

/-- Locks on the rows of a query, at most `fuel` of them. The form of the result ends them. -/
def locksWithin (g : Grammar) : (fuel : Nat) → Reader (List String)
  | 0 => refuse
  | fuel + 1 => do
    if ← word "FOR" then
      match ← resultForm g with
      | some form => return [form]
      | none =>
        let l ← lock
        return l :: (← locksWithin g fuel)
    return []

def queryFrom (g : Grammar) (inner : Inner) : Reader Query := do
  let hasCtes ← word "WITH"
  let isRecursive ← if hasCtes then word "RECURSIVE" else pure false
  let ctes ← if hasCtes then commaList (cte inner) else pure []
  if ← word "INSERT" then return onlyBody isRecursive ctes (← insert g inner "INSERT")
  if ← word "UPDATE" then return onlyBody isRecursive ctes (← update g inner)
  let b ← body g inner
  let order ← orderBy inner
  let gaps ← if order.isEmpty then pure none else interpolate inner
  let limits ← moreLimits inner (← moreLimits inner {})
  let limitBy ← after "BY" (commaList (inner.expr 0))
  let settings ← settings g
  let first ← after "FETCH" (fetch g)
  let locks ← locksWithin g ((← remaining) + 1)
  let format ← after "FORMAT" do
    if ← word "NULL" then return ⟨"NULL", none⟩ else ident
  return .mk isRecursive ctes b order gaps limits.limit limits.offset limits.offsetRows
    (limitBy.getD []) settings first locks format

/-! ### Levels of nesting -/

/-- The readers for text that nests less than a number of levels deep. -/
def atDepth (g : Grammar) : (depth : Nat) → Inner
  | 0 => ⟨fun _ => tooDeep, tooDeep, fun _ => tooDeep⟩
  | depth + 1 => {
    expr := exprFrom g (atDepth g depth)
    query := queryFrom g (atDepth g depth)
    relations := fun _ =>
      let above := { g with hierarchical := true }
      commaList (exprFrom above (atDepth above depth) 0) }

/-- How many levels a text may have. -/
def depthLimit : Nat := 50

end SqlDialect.Sql.Reader
