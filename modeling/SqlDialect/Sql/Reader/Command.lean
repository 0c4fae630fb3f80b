import SqlDialect.Sql.Reader.Session
/-!
# Reading other commands

Commands for running queries, kept statements, cursors and tables, settings of an engine and its
buffers. The reader of a command begins after the word that it is named for.
-/

namespace SqlDialect.Sql.Reader

/-! ### Statistics, procedures and settings -/

def kill : Reader Statement := do
  let kind ← oneOf ["CONNECTION", "QUERY", "MUTATION"]
  return .command (plain ("KILL" ++ textClause " " kind ++ " " ++ (← natural)))

/-- What is counted of a table. -/
structure Analysis where
  partition : Option (List Expr) := none
  compute : Bool := false
  noScan : Bool := false
  cache : Bool := false
  columns : Option (List Ident) := none

/-- More of what is counted of a table, in any order, at most `fuel` clauses. -/
def analysisWithin (inner : Inner) : (fuel : Nat) → Analysis → Reader Analysis
  | 0, a => pure a
  | fuel + 1, a => do
    match ← oneOf ["PARTITION", "FOR", "CACHE", "NOSCAN", "COMPUTE"] with
    | some "PARTITION" =>
      let es ← exprList inner
      analysisWithin inner fuel { a with partition := some es }
    | some "FOR" =>
      expectWord "COLUMNS"
      let is ← attempt (commaList ident)
      analysisWithin inner fuel { a with columns := some (is.getD []) }
    | some "CACHE" =>
      expectWord "METADATA"
      analysisWithin inner fuel { a with cache := true }
    | some "NOSCAN" => analysisWithin inner fuel { a with noScan := true }
    | some _ =>
      expectWord "STATISTICS"
      analysisWithin inner fuel { a with compute := true }
    | none => return a

def analyze (inner : Inner) : Reader Statement := do
  expectWord "TABLE"
  let n ← name
  let a ← analysisWithin inner ((← remaining) + 1) {}
  return .command (plain ("ANALYZE TABLE " ++ Name.text n) ++
    (a.partition.map fun es => .phrase "PARTITION" [.tuple es]).toList ++
    (if a.compute then plain "COMPUTE STATISTICS" else []) ++
    (if a.noScan then plain "NOSCAN" else []) ++
    (if a.cache then plain "CACHE METADATA" else []) ++
    (a.columns.map fun is => .phrase "FOR COLUMNS" (is.map .ident)).toList)

def attach (inner : Inner) : Reader Statement := do
  let databaseWord ← word "DATABASE"
  let e ← inner.expr 0
  expectWord "AS"
  return .command [.phrase (if databaseWord then "ATTACH DATABASE" else "ATTACH") [e],
    .phrase "AS" [.ident (← ident)]]

def detach : Reader Statement := do
  let databaseWord ← word "DATABASE"
  let present ← ifExistsText
  return .command (plain ("DETACH " ++ wordIf databaseWord "DATABASE" ++ present ++ (← ident).text))

def discard_ : Reader Statement := do
  let w ← expectOneOf ["ALL", "PLANS", "SEQUENCES", "TEMP", "TEMPORARY"]
  return .command (plain ("DISCARD " ++ if w = "TEMPORARY" then "TEMP" else w))

def callProcedure (g : Grammar) (inner : Inner) : Reader Statement := do
  let n ← name
  if ← isSymbol "(" then return .command [.phrase "CALL" [← call g inner n]]
  return .command [.phrase "CALL" [.bareCall n]]

/-- A condition that has to hold after `ASSERT`. -/
def assert_ (inner : Inner) : Reader Statement := do
  let e ← inner.expr 0
  let message ← after "AS" (inner.expr 0)
  return .command (.phrase "ASSERT" [e] :: (message.map fun m => .phrase "AS" [m]).toList)

def deallocate : Reader Statement := do
  let prepareWord ← word "PREPARE"
  return .command (plain ("DEALLOCATE " ++ wordIf prepareWord "PREPARE" ++ (← ident).text))

/-- Values without parentheses up to `USING`, to a semicolon or to the end of the text. -/
def bareValues (inner : Inner) : Reader (List Expr) := do
  if (← peek).isNone || (← isSymbol ";") || (← peekKeyword) = "USING" then return []
  commaList (inner.expr 0)

/-- A kept statement that is run with values for its parameters, after `EXECUTE` or `EXEC`. -/
def execute (inner : Inner) : Reader Statement := do
  let n ← name
  let run : Expr ←
    if ← isSymbol "(" then (fun es => .call n "" es []) <$> exprTuple inner
    else
      match ← bareValues inner with
      | [] => pure (.compound n)
      | es => pure (.phrase (Name.text n) es)
  let using_ ← after "USING" (commaList (inner.expr 0))
  return .command (.phrase "EXECUTE" [run] :: (using_.map fun es => .phrase "USING" es).toList)

/-- A setting of the engine after `PRAGMA`, or a question for it. -/
def pragma_ : Reader Statement := do
  let n ← name
  let value : Reader Constant := do
    match ← anyConstant with
    | .string value => return .string value
    | .quoted value => return .quoted value
    | .number digits long => return .number digits long
    | .placeholder value => return .placeholder value
    | _ => refuse
  if ← symbol "(" then
    let c ← value
    expect ")"
    return .command [.phrase "PRAGMA" [.call n "" [.constant c] []]]
  else if ← symbol "=" then
    return .command [.phrase "PRAGMA" [.binary (.compound n) "=" (.constant (← value))]]
  else return .command [.phrase "PRAGMA" [.compound n]]

/-- A query whose rows are written to a file, after `UNLOAD`. -/
def unload (g : Grammar) (inner : Inner) : Reader Statement := do
  let q ← inParens inner.query
  expectWord "TO"
  let i ← ident
  let ps ← propertiesAfter g inner "WITH"
  return .command ([.queryCall [⟨"UNLOAD", none⟩] q, .phrase "TO" [.ident i]] ++
    if ps.isEmpty then [] else [.phrase "WITH" [.tuple ps]])

/-! ### Cursors -/

/-- A query that is read row by row, after `DECLARE`. -/
def declareCursor (inner : Inner) : Reader Statement := do
  let i ← ident
  let binary ← word "BINARY"
  let sensitivity ← oneOf ["INSENSITIVE", "ASENSITIVE"]
  let scroll ←
    if ← word "SCROLL" then pure " SCROLL"
    else if ← words ["NO", "SCROLL"] then pure " NO SCROLL"
    else pure ""
  expectWord "CURSOR"
  let hold ← oneOf ["WITH", "WITHOUT"]
  if hold.isSome then expectWord "HOLD"
  expectWord "FOR"
  return .commandOn [.phrase ("DECLARE " ++ i.text ++ (if binary then " BINARY" else "") ++
    textClause " " sensitivity ++ scroll ++ " CURSOR" ++
    textClause " " (hold.map (· ++ " HOLD")) ++ " FOR") []] (← inner.query)

/-- Which rows of a cursor are read. -/
def fetchDirection : Reader String := do
  match ← oneOf ["NEXT", "PRIOR", "FIRST", "LAST", "ABSOLUTE", "RELATIVE", "FORWARD", "BACKWARD",
    "ALL"] with
  | none => unsignedNumeral
  | some w =>
    if w = "ABSOLUTE" ∨ w = "RELATIVE" then return w ++ " " ++ (← unsignedNumeral)
    else if w = "FORWARD" ∨ w = "BACKWARD" then
      return w ++ " " ++ (← if ← word "ALL" then pure "ALL" else unsignedNumeral)
    else return w

def fetchRows : Reader Statement := do
  let direction ← fetchDirection
  let _ ← expectOneOf ["FROM", "IN"]
  let i ← ident
  return .command (plain ("FETCH " ++ direction ++ " IN " ++ i.text ++
    nameClause " INTO " (← after "INTO" name)))

/-! ### Kept tables -/

/-- A table that is kept in memory, after `CACHE`; it may come from a query. -/
def cacheTable (g : Grammar) (inner : Inner) : Reader Statement := do
  let tableWord ← word "TABLE"
  let flag ← if tableWord then pure "" else (fun n => Name.text n ++ " ") <$> name
  unless tableWord do expectWord "TABLE"
  let n ← name
  let options ← propertiesAfter g inner "OPTIONS"
  let start := plain ("CACHE " ++ flag ++ "TABLE " ++ Name.text n) ++
    if options.isEmpty then [] else [.call [⟨"OPTIONS", none⟩] "" options []]
  match ← peek with
  | none => return .command start
  | some (.word ..) =>
    let asWord ← word "AS"
    return .commandOn (start ++ if asWord then plain "AS" else []) (← inner.query)
  | _ => refuse

/-- A table that is kept no longer, after `UNCACHE`. -/
def uncacheTable : Reader Statement := do
  expectWord "TABLE"
  let present ← ifExistsText
  return .command (plain ("UNCACHE TABLE " ++ present ++ Name.text (← name)))

/-- A table whose partitions are looked for, after `MSCK`. The word `PARTITIONS` alone says nothing. -/
def repairTable : Reader Statement := do
  let repair ← word "REPAIR"
  expectWord "TABLE"
  let n ← name
  let action ← attempt do
    let w ← oneOf ["ADD", "DROP", "SYNC"]
    expectWord "PARTITIONS"
    return w
  return .command (plain ("MSCK " ++ wordIf repair "REPAIR" ++ "TABLE " ++ Name.text n ++
    textClause " " (action.join.map (· ++ " PARTITIONS"))))

/-! ### Buffers -/

/-- What is written out, apart from tables. -/
def flushable : List (List String) :=
  [["BINARY", "LOGS"], ["ENGINE", "LOGS"], ["ERROR", "LOGS"], ["GENERAL", "LOGS"], ["HOSTS"],
    ["PRIVILEGES"], ["OPTIMIZER_COSTS"], ["SLOW", "LOGS"], ["STATUS"], ["USER_RESOURCES"], ["LOGS"]]

/-- The first of some lists of words that comes next, or nothing. -/
def oneOfWords : List (List String) → Reader (Option String)
  | [] => return none
  | ws :: rest => do
    if ← words ws then return some (" ".intercalate ws) else oneOfWords rest

/-- Which tables are written out. -/
structure FlushedTables where
  names : List Name := []
  readLock : Bool := false
  forExport : Bool := false

/-- More of which tables are written out, at most `fuel` clauses. Keywords that mean nothing here say
nothing, and the first token that is no word is taken with them. -/
def flushedWithin : (fuel : Nat) → FlushedTables → Reader FlushedTables
  | 0, t => pure t
  | fuel + 1, t => do
    match ← attempt take with
    | some (.word value quote) =>
      match (Token.word value quote).keyword with
      | "WITH" =>
        let lock ← words ["READ", "LOCK"]
        flushedWithin fuel { t with readLock := lock }
      | "FOR" =>
        let files ← word "EXPORT"
        flushedWithin fuel { t with forExport := files }
      | _ =>
        if (Token.word value quote).isKeyword then flushedWithin fuel t
        else
          let rest ← collect (do if ← symbol "." then some <$> ident else pure none)
          let more ← afterComma (commaList name)
          flushedWithin fuel { t with names := (⟨value, quote⟩ :: rest) :: more.getD [] }
    | _ => return t

def flush : Reader Statement := do
  let place ← oneOf ["NO_WRITE_TO_BINLOG", "LOCAL"]
  let start := "FLUSH" ++ textClause " " place
  if ← words ["RELAY", "LOGS"] then
    let channel ← afterWords ["FOR", "CHANNEL"] name
    return .command (plain (start ++ " RELAY LOGS" ++ nameClause " FOR CHANNEL " channel))
  if ← word "TABLES" then
    let t ← flushedWithin ((← remaining) + 1) {}
    return .command (plain (start ++ " TABLES" ++ listClause " " (t.names.map Name.text) ++
      (if t.readLock then " WITH READ LOCK" else "") ++ if t.forExport then " FOR EXPORT" else ""))
  match ← oneOfWords flushable with
  | some w => return .command (plain (start ++ " " ++ w))
  | none => refuse

end SqlDialect.Sql.Reader
