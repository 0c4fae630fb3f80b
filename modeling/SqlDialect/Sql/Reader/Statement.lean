import SqlDialect.Sql.Reader.Command
import SqlDialect.Sql.Reader.Copy
/-!
# Reading statements

The first word of a statement says what kind of statement it is; a text that begins with no such
word is none.
-/

namespace SqlDialect.Sql.Reader

/-- An option of a plan between parentheses: a name with a value or without. -/
def planOption (inner : Inner) : Reader Expr := do
  let i ← ident
  if (← isSymbol ",") || (← isSymbol ")") then return .ident i
  return .phrase i.text [← inner.expr 0]

/-- How a plan is made and written. -/
structure PlanOptions where
  queryPlan : Bool := false
  analyze : Bool := false
  verbose : Bool := false
  format : Option String := none
  options : List Expr := []

/-- How a plan is made and written, after the word `w`. -/
def planOptions (g : Grammar) (inner : Inner) (w : String) : Reader PlanOptions := do
  if w = "EXPLAIN" ∧ g.extended ∧ (← isSymbol "(") then
    return { options := ← inParens (commaList (planOption inner)) }
  if ← words ["QUERY", "PLAN"] then return { queryPlan := true }
  let analyze ← word "ANALYZE"
  let verbose ← word "VERBOSE"
  let format ← after "FORMAT" (expectOneOf ["TEXT", "GRAPHVIZ", "JSON"])
  return { analyze, verbose, format }

/-- The plan of a statement, or the columns of a table, after the word `w`. -/
def explain (g : Grammar) (inner : Inner) (below : Reader Statement) (w : String) :
    Reader Statement := do
  let o ← planOptions g inner w
  match ← attempt below with
  | some (.explain ..) | some (.explainTable ..) => refuse
  | some s => return .explain w o.queryPlan o.analyze o.verbose o.format o.options s
  | none =>
    let detail ← oneOf ["EXTENDED", "FORMATTED"]
    let tableWord ← if g.columnar then word "TABLE" else pure false
    return .explainTable (w ++ " " ++ ((detail.map (· ++ " ")).getD "") ++ wordIf tableWord "TABLE")
      (← name)

/-- A statement that is kept, after `PREPARE`. -/
def prepare (g : Grammar) (inner : Inner) (below : Reader Statement) : Reader Statement := do
  let i ← ident
  let types ← if ← isSymbol "(" then inParens (commaList (dataType g inner)) else pure []
  expectWord "AS"
  return .prepare i types (← below)

def identCommand (w : String) : Reader Statement := do
  return .command (plain (w ++ " " ++ (← ident).text))

/-- A command that only the larger grammar has. -/
def onlyExtended (g : Grammar) (r : Reader Statement) : Reader Statement :=
  if g.extended then r else refuse

/-- Statements that `one` reads, up to the end of the text, at most `fuel` of them and of the semicolons
between them. A semicolon stands between two statements; after a statement the word `END` ends the
reading. -/
def statementsWithin (one : Reader Statement) : (fuel : Nat) → (separated : Bool) →
    Reader (List Statement)
  | 0, _ => refuse
  | fuel + 1, separated => do
    if ← symbol ";" then statementsWithin one fuel true
    else
      match ← peek with
      | none => return []
      | some t =>
        if separated then
          let s ← one
          return s :: (← statementsWithin one fuel false)
        else if t.keyword = "END" then return []
        else refuse

/-- A statement that begins with the keyword `w`, which has been taken. -/
def statementAfter (g : Grammar) (inner : Inner) (below : Reader Statement) (w : String) :
    Reader Statement :=
  match w with
  | "EXPLAIN" | "DESCRIBE" | "DESC" => explain g inner below w
  | "TRUNCATE" => truncate g inner
  | "CREATE" => do create g inner (statementsWithin below (2 * (← remaining) + 1) true)
  | "DROP" => drop g inner
  | "DELETE" => delete g inner
  | "INSERT" => .change <$> insert g inner w
  | "REPLACE" => onlyExtended g (.change <$> insert g inner w)
  | "UPDATE" => .change <$> update g inner
  | "MERGE" => merge g inner
  | "ALTER" => alter g inner
  | "SHOW" => show_ g inner
  | "USE" => .use <$> name
  | "SET" => set g inner
  | "START" => do
    expectWord "TRANSACTION"
    return .begin "START TRANSACTION" (← transactionModes)
  | "BEGIN" => begin_ g
  | "COMMIT" | "END" => .commit <$> chain
  | "ROLLBACK" => rollback
  | "SAVEPOINT" => identCommand w
  | "RELEASE" => do
    let _ ← word "SAVEPOINT"
    identCommand "RELEASE SAVEPOINT"
  | "OPTIMIZE" => optimize inner
  | "GRANT" => grant
  | "REVOKE" => revoke
  | "KILL" => kill
  | "ANALYZE" => analyze inner
  | "ATTACH" => attach inner
  | "DETACH" => onlyExtended g detach
  | "DISCARD" => discard_
  | "CLOSE" => do if ← word "ALL" then return .command (plain "CLOSE ALL") else identCommand w
  | "CALL" => callProcedure g inner
  | "ASSERT" => assert_ inner
  | "DEALLOCATE" => deallocate
  | "EXECUTE" | "EXEC" => execute inner
  | "PREPARE" => prepare g inner below
  | "PRAGMA" => pragma_
  | "UNLOAD" => unload g inner
  | "COPY" => copy g inner
  | "DECLARE" => declareCursor inner
  | "FETCH" => fetchRows
  | "CACHE" => cacheTable g inner
  | "UNCACHE" => uncacheTable
  | "MSCK" => repairTable
  | "FLUSH" => onlyExtended g flush
  | "INSTALL" | "LOAD" => onlyExtended g (identCommand w)
  | _ => refuse

/-- A statement that nests less than `depth` levels deep. -/
def statement (g : Grammar) : (depth : Nat) → Reader Statement
  | 0 => tooDeep
  | depth + 1 => do
    let inner := atDepth g depth
    let w ← peekKeyword
    if w ∈ ["SELECT", "WITH", "VALUES"] ∨ (← isSymbol "(") then .query <$> inner.query
    else
      let _ ← take
      statementAfter g inner (statement g depth) w

/-- Statements up to the end of the text, at most `fuel` of them and of the semicolons between them. -/
def statements (g : Grammar) (fuel : Nat) (separated : Bool) : Reader (List Statement) :=
  statementsWithin (statement g depthLimit) fuel separated

end SqlDialect.Sql.Reader
