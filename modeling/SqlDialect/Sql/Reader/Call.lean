import SqlDialect.Sql.Reader.Time
/-!
# Reading calls

A call is the name of a function and its arguments. An argument may be a wildcard or have a name;
phrases such as an order may follow the arguments inside the parentheses, and a window after them.
-/

namespace SqlDialect.Sql.Reader

/-! ### Wildcards and keys to sort by -/

/-- The rest of a name before its dotted wildcard, at most `fuel` pieces. -/
def wildcardTail : Nat → Reader Name
  | 0 => refuse
  | fuel + 1 => do
    expect "."
    if ← symbol "*" then return []
    let i ← ident
    return i :: (← wildcardTail fuel)

/-- `*`, or a name and `.*`. -/
def wildcard : Reader Name := do
  if ← symbol "*" then return []
  let i ← ident
  return i :: (← wildcardTail ((← remaining) + 1))

def wildcardOr (e : Reader Expr) : Reader Expr := do
  match ← attempt wildcard with
  | some table => return .wildcard table []
  | none => e

/-- Words and an expression if the first of them comes next. -/
def clause (inner : Inner) (w : String) : Reader (List Expr) := do
  return ((← after w (inner.expr 0)).map fun e => .phrase w [e]).toList

def sortKey (inner : Inner) : Reader Expr := do
  let e ← inner.expr 0
  let direction ← oneOf ["ASC", "DESC"]
  let nulls ←
    if ← words ["NULLS", "FIRST"] then pure " NULLS FIRST"
    else if ← words ["NULLS", "LAST"] then pure " NULLS LAST"
    else pure ""
  let key : Expr := .sorted e (textClause " " direction ++ nulls)
  if ← words ["WITH", "FILL"] then
    let start ← clause inner "FROM"
    let finish ← clause inner "TO"
    let step ← clause inner "STEP"
    return .filled key (start ++ finish ++ step)
  return key

/-- Keys to sort by after `ORDER BY`, or nothing. -/
def orderBy (inner : Inner) : Reader (List Expr) := do
  return (← afterWords ["ORDER", "BY"] (commaList (sortKey inner))).getD []

/-! ### Arguments -/

def argument (g : Grammar) (inner : Inner) : Reader Expr := do
  let value := wildcardOr (inner.expr 0)
  match ← peekAt 1 with
  | some (.symbol s) =>
    if s = "=>" ∨ (s = ":=" ∧ g.extended) then
      let i ← ident
      expect s
      return .named i s (← value)
    else value
  | _ => value

/-- `IGNORE NULLS` or `RESPECT NULLS`, or nothing. -/
def nullTreatment : Reader (Option String) := do
  match ← oneOf ["IGNORE", "RESPECT"] with
  | some w =>
    expectWord "NULLS"
    return some (w ++ " NULLS")
  | none => return none

/-- What is done when a list of texts gets too long, or nothing. -/
def overflow (inner : Inner) : Reader (List Expr) := do
  if ← words ["ON", "OVERFLOW"] then
    if ← word "ERROR" then return [.phrase "ON OVERFLOW ERROR" []]
    expectWord "TRUNCATE"
    let filler ←
      match ← peek with
      | some (.string _) | some (.marked ..) => (fun e => [e]) <$> inner.expr 0
      | _ => pure []
    let counted ← expectOneOf ["WITH", "WITHOUT"]
    expectWord "COUNT"
    return [.phrase "ON OVERFLOW TRUNCATE" filler, .phrase (counted ++ " COUNT") []]
  return []

structure Arguments where
  distinct : String := ""
  args : List Expr := []
  phrases : List Expr := []
  /-- Whether the phrases say what is done with nulls. -/
  treatsNulls : Bool := false

/-- The arguments of a call after its opening parenthesis. -/
def callArguments (g : Grammar) (inner : Inner) : Reader Arguments := do
  if ← symbol ")" then return {}
  let all ← word "ALL"
  let distinct ← word "DISTINCT"
  if all && distinct then refuse
  let args ← commaList (argument g inner)
  let nulls ← if g.extended then nullTreatment else pure none
  let order ← orderBy inner
  let limit ← clause inner "LIMIT"
  let having ←
    if g.extended then after "HAVING" do
      let w ← expectOneOf ["MIN", "MAX"]
      return Expr.phrase ("HAVING " ++ w) [← inner.expr 0]
    else pure none
  let separator ← if g.extended then after "SEPARATOR" (constant g) else pure none
  let tooLong ← overflow inner
  expect ")"
  return {
    distinct := wordIf all "ALL" ++ wordIf distinct "DISTINCT"
    args
    phrases :=
      (nulls.map fun w => .phrase w []).toList ++
        (if order.isEmpty then [] else [.phrase "ORDER BY" order]) ++ limit ++ having.toList ++
        (separator.map fun c => .phrase "SEPARATOR" [.constant c]).toList ++ tooLong
    treatsNulls := nulls.isSome }

/-! ### Windows -/

/-- An end of a frame. A string there is a length of time. -/
def frameBound (g : Grammar) (inner : Inner) : Reader Expr := do
  if ← words ["CURRENT", "ROW"] then return .bound none "CURRENT ROW"
  if ← word "UNBOUNDED" then
    return .bound none ("UNBOUNDED " ++ (← expectOneOf ["PRECEDING", "FOLLOWING"]))
  let e ←
    match ← peek with
    | some (.string _) => intervalExpr g inner
    | _ => inner.expr 0
  return .bound (some e) (← expectOneOf ["PRECEDING", "FOLLOWING"])

def frame (g : Grammar) (inner : Inner) : Reader Expr := do
  let units ← expectOneOf ["ROWS", "RANGE", "GROUPS"]
  if ← word "BETWEEN" then
    let start ← frameBound g inner
    expectWord "AND"
    return .frame units start (some (← frameBound g inner))
  return .frame units (← frameBound g inner) none

/-- A window after its opening parenthesis. A word that is no keyword names the window it starts
from. -/
def windowSpec (g : Grammar) (inner : Inner) : Reader Expr := do
  let base ←
    match ← peek with
    | some (.word value quote) =>
      if (Token.word value quote).isKeyword then pure none else optionalIdent
    | _ => pure none
  let partition ← afterWords ["PARTITION", "BY"] (commaList (inner.expr 0))
  let order ← orderBy inner
  if ← symbol ")" then return .window base (partition.getD []) order none
  let rows ← frame g inner
  expect ")"
  return .window base (partition.getD []) order (some rows)

def windowDefinition (g : Grammar) (inner : Inner) : Reader Expr := do
  let i ← ident
  expectWord "AS"
  if ← symbol "(" then return .definedWindow i true (← windowSpec g inner)
  if g.extended then return .definedWindow i false (.ident (← ident))
  refuse

/-! ### Calls -/

def call (g : Grammar) (inner : Inner) (function : Name) : Reader Expr := do
  expect "("
  let a ← callArguments g inner
  let f : Expr := .call function a.distinct a.args a.phrases
  let (f, treatsNulls) ←
    if ← symbol "(" then
      let b ← callArguments g inner
      pure (.parametric f b.distinct b.args b.phrases, b.treatsNulls)
    else pure (f, a.treatsNulls)
  let f : Expr ←
    if ← words ["WITHIN", "GROUP"] then
      let keys ← inParens do
        expectWords ["ORDER", "BY"]
        commaList (sortKey inner)
      pure (.withinGroup f keys)
    else pure f
  let nulls ← if treatsNulls then pure none else nullTreatment
  let f : Expr :=
    match nulls with
    | some w => .followed f w
    | none => f
  if ← word "OVER" then
    if ← symbol "(" then return .over f (← windowSpec g inner)
    return .overNamed f (← ident)
  return f

end SqlDialect.Sql.Reader
