import SqlDialect.Sql.Reader.JsonTable
import SqlDialect.Sql.Reader.RowPattern
/-!
# Reading sources of rows

A source is a table, a function, a query, rows or a join, with a name or without. A word after a
source names it unless the word is reserved, so the lists of reserved words decide where a source
ends.
-/

namespace SqlDialect.Sql.Reader

/-! ### Names given to columns and rows -/

/-- Words that name neither a column nor a table without `AS`. -/
def reservedWords : List String :=
  ["WITH", "EXPLAIN", "ANALYZE", "SELECT", "WHERE", "GROUP", "SORT", "HAVING", "ORDER", "TOP",
    "LATERAL", "VIEW", "LIMIT", "OFFSET", "FETCH", "UNION", "EXCEPT", "INTERSECT", "CLUSTER",
    "DISTRIBUTE", "RETURNING", "END"]

/-- Words that name no result column without `AS`. -/
def columnReserved : List String := reservedWords ++ ["FROM", "INTO"]

/-- Words that name no table without `AS`. -/
def tableReserved : List String :=
  reservedWords ++
    ["PIVOT", "UNPIVOT", "ON", "JOIN", "INNER", "CROSS", "FULL", "LEFT", "RIGHT", "NATURAL",
      "USING", "GLOBAL", "ASOF", "MATCH_CONDITION", "OUTER", "SET", "QUALIFY", "WINDOW", "FOR",
      "PARTITION", "PREWHERE", "SETTINGS", "FORMAT", "START", "CONNECT", "MATCH_RECOGNIZE"]

/-- A name, after `AS` any word, without it none of the reserved words. -/
def optionalName (reserved : List String) : Reader (Option Ident) := do
  if ← word "AS" then return some (← ident)
  match ← peek with
  | some (.word value quote) =>
    if (Token.word value quote).keyword ∈ reserved then return none else return some (← ident)
  | some (.string _) => return some (← ident)
  | _ => return none

/-- A name for rows and names for their columns, or nothing. -/
def optionalAlias : Reader (Option Alias) := do
  match ← optionalName tableReserved with
  | some i => return some ⟨i, ← optionalIdentList⟩
  | none => return none

/-! ### Settings -/

def setting (g : Grammar) : Reader (Ident × Constant) := do
  let i ← ident
  expect "="
  return (i, ← constant g)

def settings (g : Grammar) : Reader (List (Ident × Constant)) := do
  return (← after "SETTINGS" (commaList (setting g))).getD []

/-- Settings as the last argument of a call. -/
def settingsPhrase (ss : List (Ident × Constant)) : Expr :=
  .phrase "SETTINGS" (ss.map fun s => .binary (.ident s.1) "=" (.constant s.2))

/-- The arguments of a table function, at most `fuel` of them, which may end with settings. -/
def tableArguments (g : Grammar) (inner : Inner) : (fuel : Nat) → Reader (List Expr)
  | 0 => refuse
  | fuel + 1 => do
    match ← settings g with
    | s :: ss =>
      expect ")"
      return [settingsPhrase (s :: ss)]
    | [] =>
      let a ← argument g inner
      if ← symbol "," then return a :: (← tableArguments g inner fuel)
      expect ")"
      return [a]

/-! ### Joins -/

structure JoinWords where
  text : String
  /-- A condition that picks the nearest row stands after the joined table. -/
  nearest : Bool := false
  /-- A condition or shared columns may stand after the joined table. -/
  conditional : Bool

def joinWords : Reader (Option JoinWords) := do
  if ← word "CROSS" then
    return some ⟨"CROSS " ++ (← expectOneOf ["JOIN", "APPLY"]), false, false⟩
  if ← word "OUTER" then
    expectWord "APPLY"
    return some ⟨"OUTER APPLY", false, false⟩
  if ← word "ASOF" then
    expectWord "JOIN"
    return some ⟨"ASOF JOIN", true, true⟩
  let natural ← word "NATURAL"
  let start := wordIf natural "NATURAL"
  let w ← peekKeyword
  if w = "INNER" ∨ w = "JOIN" then
    let _ ← word "INNER"
    expectWord "JOIN"
    return some ⟨start ++ "JOIN", false, !natural⟩
  else if w = "LEFT" ∨ w = "RIGHT" then
    let _ ← take
    let kind ← expectOneOf ["OUTER", "SEMI", "ANTI", "JOIN"]
    unless kind = "JOIN" do expectWord "JOIN"
    let kind := if kind = "SEMI" ∨ kind = "ANTI" then w ++ " " ++ kind else w
    return some ⟨start ++ kind ++ " JOIN", false, !natural⟩
  else if w = "FULL" then
    let _ ← take
    let _ ← word "OUTER"
    expectWord "JOIN"
    return some ⟨start ++ "FULL JOIN", false, !natural⟩
  else if natural then refuse
  else return none

/-- A joined table: the words of the join, the table, the condition on the nearest row, the
condition, and the shared columns. -/
structure Joined where
  words : String
  source : Source
  nearest : Option Expr
  on : Option Expr := none
  shared : List Ident := []

/-- A join and its table, or nothing. The word `GLOBAL` without a join says nothing. -/
def join (inner : Inner) (factor : Reader Source) : Reader (Option Joined) := do
  let global ← word "GLOBAL"
  match ← joinWords with
  | none => return none
  | some j =>
    let words := wordIf global "GLOBAL" ++ j.text
    let source ← factor
    let nearest ←
      if j.nearest then
        expectWord "MATCH_CONDITION"
        some <$> inParens (inner.expr 0)
      else pure none
    if j.conditional then
      if ← word "ON" then return some { words, source, nearest, on := some (← inner.expr 0) }
      if ← word "USING" then return some { words, source, nearest, shared := ← identList }
    return some { words, source, nearest }

def joins (inner : Inner) (factor : Reader Source) : Reader Source := do
  let first ← factor
  let rest ← collect (join inner factor)
  return rest.foldl (fun l j => .joined l j.words j.source j.nearest j.on j.shared) first

/-! ### Rows as columns -/

/-- A value with a name for it or without. -/
def optionallyNamed (inner : Inner) : Reader Expr := do
  let e ← inner.expr 0
  match ← after "AS" ident with
  | some i => return .aliased e i
  | none => return e

/-- A call of a function whose name is one word, with a name for its value or without. -/
def namedCall (g : Grammar) (inner : Inner) : Reader Expr := do
  match ← take with
  | .word value _ =>
    let e ← call g inner [⟨value, none⟩]
    match ← after "AS" ident with
    | some i => return .aliased e i
    | none => return e
  | _ => refuse

/-- The values of a column that become columns: all, those of a query, or those of a list. -/
def pivotValues (inner : Inner) : Reader Expr := inParens do
  if ← word "ANY" then
    match ← orderBy inner with
    | [] => return .phrase "(ANY)" []
    | keys => return .tuple [.phrase "ANY ORDER BY" keys]
  if ← atQuery then return .subquery (← inner.query)
  return .tuple (← commaList (optionallyNamed inner))

/-- Rows that become columns, after `PIVOT`. -/
def pivot (g : Grammar) (inner : Inner) (s : Source) : Reader Source := do
  let phrases ← inParens do
    let calls ← commaList (namedCall g inner)
    expectWord "FOR"
    let column ← name
    expectWord "IN"
    let values ← pivotValues inner
    let otherwise ← afterWords ["DEFAULT", "ON", "NULL"] (inParens (inner.expr 0))
    return [.phrase "" calls, .phrase "FOR" [.compound column], .phrase "IN" [values]] ++
      (otherwise.map fun e => .phrase "DEFAULT ON NULL" [.nested e]).toList
  return .pivoted s "PIVOT" phrases (← optionalAlias)

/-- Columns that become rows, after `UNPIVOT`. -/
def unpivot (s : Source) : Reader Source := do
  let phrases ← inParens do
    let value ← ident
    expectWord "FOR"
    let column ← ident
    expectWord "IN"
    let columns ← identList
    return [.ident value, .phrase "FOR" [.ident column],
      .phrase "IN" [.tuple (columns.map .ident)]]
  return .pivoted s "UNPIVOT" phrases (← optionalAlias)

/-- A source with its changes of rows to columns and of columns to rows, at most `fuel` of them. -/
def pivots (g : Grammar) (inner : Inner) : (fuel : Nat) → Source → Reader Source
  | 0, _ => refuse
  | fuel + 1, s => do
    match ← oneOf ["PIVOT", "UNPIVOT"] with
    | some "PIVOT" => pivots g inner fuel (← pivot g inner s)
    | some _ => pivots g inner fuel (← unpivot s)
    | none => return s

/-! ### Single sources -/

/-- A query after its opening parenthesis, with its name. -/
def derived (inner : Inner) (lateral : Bool) : Reader Source := do
  let q ← inner.query
  expect ")"
  return .derived lateral q (← optionalAlias)

/-- The same source with a name, if it has none. -/
def renamed (called : Alias) : Source → Option Source
  | .table name partitions args ordinality none hints =>
    some (.table name partitions args ordinality (some called) hints)
  | .lateralCall name args none => some (.lateralCall name args (some called))
  | .expression e none => some (.expression e (some called))
  | .unnest arrays ordinality none offset offsetName =>
    some (.unnest arrays ordinality (some called) offset offsetName)
  | .derived lateral q none => some (.derived lateral q (some called))
  | .nested s none => some (.nested s (some called))
  | .pivoted s word phrases none => some (.pivoted s word phrases (some called))
  | _ => none

/-- What stands between parentheses in the place of a table, after the opening one. -/
def nestedSource (g : Grammar) (inner : Inner) (factor : Reader Source) : Reader Source := do
  match ← attempt (derived inner false) with
  | some s => pivots g inner ((← remaining) + 1) s
  | none =>
    let s ← joins inner factor
    let wrapped := match s with
      | .joined .. | .nested .. => true
      | _ => false
    if wrapped then
      expect ")"
      return .nested s (← optionalAlias)
    else if g.extended then
      expect ")"
      match ← optionalAlias with
      | none => return s
      | some called =>
        match renamed called s with
        | some s => return s
        | none => refuse
    else refuse

/-- The arguments of a call after its opening parenthesis, without phrases. -/
def plainArguments (g : Grammar) (inner : Inner) : Reader (List Expr) := do
  if ← symbol ")" then return []
  let args ← commaList (argument g inner)
  expect ")"
  return args

/-- A source after `LATERAL`: a query or a function. -/
def lateralSource (g : Grammar) (inner : Inner) : Reader Source := do
  if ← symbol "(" then derived inner true
  else
    let n ← name
    expect "("
    let args ← plainArguments g inner
    return .lateralCall n args (← optionalAlias)

/-- The items of arrays after `UNNEST`. -/
def unnestSource (inner : Inner) : Reader Source := do
  let arrays ← inParens (commaList (inner.expr 0))
  let ordinality ← words ["WITH", "ORDINALITY"]
  let called ← optionalAlias
  let offset ← words ["WITH", "OFFSET"]
  let offsetName ← if offset then optionalName columnReserved else pure none
  return .unnest arrays ordinality called offset offsetName

/-- Hints for a table after `WITH`, or nothing. -/
def hints (inner : Inner) : Reader (List Expr) := do
  match ← peekAt 1 with
  | some (.symbol "(") => return (← after "WITH" (inParens (commaList (inner.expr 0)))).getD []
  | _ => return []

/-- A table or a function with its name. -/
def tableSource (g : Grammar) (inner : Inner) : Reader Source := do
  let n ← name
  let partitions ← if g.extended then after "PARTITION" identList else pure none
  let args ←
    if ← symbol "(" then
      if ← symbol ")" then pure (some [])
      else some <$> tableArguments g inner ((← remaining) + 1)
    else pure none
  let ordinality ← words ["WITH", "ORDINALITY"]
  let called ← optionalAlias
  let s ← pivots g inner ((← remaining) + 1)
    (.table n (partitions.getD []) args ordinality called (← hints inner))
  if g.extended && (← word "MATCH_RECOGNIZE") then
    let phrases ← matchPhrases inner
    return .pivoted s "MATCH_RECOGNIZE" phrases (← optionalAlias)
  return s

/-- A table made from JSON after the word `w` for it. -/
def jsonSource (g : Grammar) (inner : Inner) (w : String) : Reader Source := do
  let i : Ident := ⟨w, none⟩
  if w = "JSON_TABLE" then
    let args ← jsonTableArguments g inner
    return .table [i] [] (some args) false (← optionalAlias) []
  let args ← openJsonArguments g inner
  let columns ← openJsonColumns g inner
  let called ← optionalAlias
  if columns.isEmpty then return .table [i] [] (some args) false called []
  return .pivoted (.table [i] [] (some args) false none []) "WITH " [.phrase "" columns] called

def values (inner : Inner) : Reader Body := do
  let rows ← commaList do
    let rowWord ← word "ROW"
    return (rowWord, ← inParens (commaList (inner.expr 0)))
  return .values (rows.any (·.1)) (rows.map (·.2))

/-- A query that is nothing but a body. -/
def onlyBody (isRecursive : Bool) (ctes : List Cte) (b : Body) : Query :=
  .mk isRecursive ctes b [] none none none "" [] [] none [] none

/-- A source without joins that nests less than `fuel` deep. -/
def factorWithin (g : Grammar) (inner : Inner) : (fuel : Nat) → Reader Source
  | 0 => refuse
  | fuel + 1 => do
    if ← word "LATERAL" then lateralSource g inner
    else if ← word "TABLE" then
      let e ← inParens (inner.expr 0)
      return .expression e (← optionalAlias)
    else if ← symbol "(" then nestedSource g inner (factorWithin g inner fuel)
    else
      let w ← peekKeyword
      let next ← peekAt 1
      if g.extended ∧ w = "VALUES" ∧ next = some (.symbol "(") then
        let _ ← take
        let rows ← values inner
        return .derived false (onlyBody false [] rows) (← optionalAlias)
      else if g.extended ∧ w = "UNNEST" then
        let _ ← take
        unnestSource inner
      else if (w = "JSON_TABLE" ∨ w = "OPENJSON") ∧ next = some (.symbol "(") then
        let _ ← take
        jsonSource g inner w
      else tableSource g inner

/-- A source without joins. -/
def factor (g : Grammar) (inner : Inner) : Reader Source := do
  factorWithin g inner ((← remaining) + 1)

def source (g : Grammar) (inner : Inner) : Reader Source := joins inner (factor g inner)

end SqlDialect.Sql.Reader
