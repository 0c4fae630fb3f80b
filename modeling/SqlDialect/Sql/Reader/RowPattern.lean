import SqlDialect.Sql.Reader.Expr
/-!
# Reading patterns of rows

A pattern of rows is a regular expression whose letters are symbols, each defined by a condition on a
row. `rowPattern` reads its text, written with one blank between the items of a sequence and around
each bar.
-/

namespace SqlDialect.Sql.Reader

/-- How often an item may come, between braces after the opening one. -/
def repetitionRange : Reader String := do
  let bound := naturalBelow 0x100000000
  if ← symbol "," then
    let most ← bound
    expect "\x7d"
    return "\x7b," ++ most ++ "\x7d"
  let least ← bound
  if ← symbol "," then
    if ← symbol "\x7d" then return "\x7b" ++ least ++ ",\x7d"
    let most ← bound
    expect "\x7d"
    return "\x7b" ++ least ++ "," ++ most ++ "\x7d"
  expect "\x7d"
  return "\x7b" ++ least ++ "\x7d"

/-- A mark that says how often an item may come, or nothing. -/
def repetition : Reader (Option String) := do
  if ← symbol "*" then return some "*"
  if ← symbol "+" then return some "+"
  if ← accept (.placeholder "?") then return some "?"
  if ← symbol "\x7b" then return some (← repetitionRange)
  return none

/-- An item of a pattern, where `below` reads a pattern between parentheses. -/
def patternItem (below : Reader String) : Reader String := do
  let item ←
    if ← symbol "^" then pure "^"
    else if ← accept (.placeholder "$") then pure "$"
    else if ← symbol "\x7b" then
      expect "-"
      let i ← ident
      expect "-"
      expect "\x7d"
      pure ("\x7b- " ++ i.text ++ " -\x7d")
    else if ← symbol "(" then
      let p ← below
      expect ")"
      pure ("( " ++ p ++ " )")
    else if ← accept (.word "PERMUTE" none) then
      (fun is => "PERMUTE" ++ columnList is) <$> identList
    else (·.text) <$> ident
  return item ++ String.join (← collect repetition)

/-- A pattern that nests less than `fuel` deep and has fewer alternatives. -/
def patternWithin : (fuel : Nat) → Reader String
  | 0 => refuse
  | fuel + 1 => do
    let more : Reader Bool := return !((← isSymbol ")") || (← isSymbol "|"))
    let items ← separatedWithin (patternItem (patternWithin fuel)) more ((← remaining) + 1)
    let first := " ".intercalate items
    if ← symbol "|" then return first ++ " | " ++ (← patternWithin fuel) else return first

/-- A pattern of rows between parentheses. -/
def rowPattern : Reader String := do inParens (patternWithin ((← remaining) + 1))

/-- A value that is computed for each match. -/
def measure (inner : Inner) : Reader Expr := do
  let e ← inner.expr 0
  let _ ← word "AS"
  return .aliased e (← ident)

/-- The rows that come from each match, or nothing. -/
def rowsPerMatch : Reader (Option String) := do
  if ← words ["ONE", "ROW", "PER", "MATCH"] then return some "ONE ROW PER MATCH"
  if ← words ["ALL", "ROWS", "PER", "MATCH"] then
    let rows := "ALL ROWS PER MATCH"
    if ← words ["SHOW", "EMPTY", "MATCHES"] then return some (rows ++ " SHOW EMPTY MATCHES")
    if ← words ["OMIT", "EMPTY", "MATCHES"] then return some (rows ++ " OMIT EMPTY MATCHES")
    if ← words ["WITH", "UNMATCHED", "ROWS"] then return some (rows ++ " WITH UNMATCHED ROWS")
    return some rows
  return none

/-- Where the next match may begin, or nothing. A place after the next row is written with two
blanks before it. -/
def afterMatch : Reader (Option String) := afterWords ["AFTER", "MATCH", "SKIP"] do
  let start := "AFTER MATCH SKIP "
  if ← words ["PAST", "LAST", "ROW"] then return start ++ "PAST LAST ROW"
  if ← words ["TO", "NEXT", "ROW"] then return start ++ " TO NEXT ROW"
  expectWord "TO"
  let w ← expectOneOf ["FIRST", "LAST"]
  return start ++ "TO " ++ w ++ " " ++ (← ident).text

/-- A symbol of a pattern and the condition on its rows. -/
def symbolDefinition (inner : Inner) : Reader Expr := do
  let i ← ident
  expectWord "AS"
  return .named i "AS" (← inner.expr 0)

/-- Matches of a pattern between parentheses, after `MATCH_RECOGNIZE`. -/
def matchPhrases (inner : Inner) : Reader (List Expr) := inParens do
  let partition ← afterWords ["PARTITION", "BY"] (commaList (inner.expr 0))
  let order ← afterWords ["ORDER", "BY"] (commaList (sortKey inner))
  let measures ← after "MEASURES" (commaList (measure inner))
  let rows ← rowsPerMatch
  let next ← afterMatch
  expectWord "PATTERN"
  let p ← rowPattern
  expectWord "DEFINE"
  let definitions ← commaList (symbolDefinition inner)
  let list (w : String) (es : Option (List Expr)) : List Expr := (es.map fun es => .phrase w es).toList
  return list "PARTITION BY" partition ++ list "ORDER BY" order ++ list "MEASURES" measures ++
    optionalPlain rows ++ optionalPlain next ++ plain ("PATTERN " ++ parens p) ++
    [.phrase "DEFINE" definitions]

end SqlDialect.Sql.Reader
