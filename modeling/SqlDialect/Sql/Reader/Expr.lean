import SqlDialect.Sql.Reader.Call
/-!
# Reading expressions

An expression is an operand and the operators after it. `exprFrom inner level` reads an operand and
all operators above a level; what stands inside the operand is read by `inner`.

Few words are reserved. A keyword that begins no expression is an identifier where an operand is
looked for.
-/

namespace SqlDialect.Sql.Reader

/-! ### Operands that begin with a word -/

/-- Arms of `CASE` after its first `WHEN`, at most `fuel` of them. -/
def caseArms (inner : Inner) : Nat → Reader (List (Expr × Expr))
  | 0 => refuse
  | fuel + 1 => do
    let condition ← inner.expr 0
    expectWord "THEN"
    let result ← inner.expr 0
    if ← word "WHEN" then return (condition, result) :: (← caseArms inner fuel)
    return [(condition, result)]

def caseExpr (inner : Inner) : Reader Expr := do
  let operand ←
    if ← word "WHEN" then pure none
    else do
      let e ← inner.expr 0
      expectWord "WHEN"
      pure (some e)
  let arms ← caseArms inner ((← remaining) + 1)
  let otherwise ← after "ELSE" (inner.expr 0)
  expectWord "END"
  return .case operand (arms.map (·.1)) (arms.map (·.2)) otherwise

/-- The format of a conversion after its type, or nothing. -/
def castTail (g : Grammar) : Reader String := do
  if ← word "FORMAT" then
    let format ← constant g
    let zone ← afterWords ["AT", "TIME", "ZONE"] (constant g)
    return " FORMAT " ++ format.text ++ textClause " AT TIME ZONE " (zone.map Constant.text)
  return ""

/-- A conversion after `CAST` or a word that stands for it. -/
def castExpr (g : Grammar) (inner : Inner) (w : String) : Reader Expr := inParens do
  let e ← inner.expr 0
  expectWord "AS"
  let type ← dataType g inner
  return .cast (.word w (← castTail g)) e type

/-- A conversion to a type or to a character set after `CONVERT` or a word that stands for it. -/
def convertExpr (g : Grammar) (inner : Inner) (w : String) : Reader Expr := inParens do
  let e ← inner.expr 0
  if ← word "USING" then return .convert w e none (some (← name))
  expect ","
  let type ← dataType g inner
  return .convert w e (some type) (← afterWords ["CHARACTER", "SET"] name)

/-- A part of a point in time after `EXTRACT`. -/
def extractExpr (g : Grammar) (inner : Inner) : Reader Expr := inParens do
  let field ← timePart g
  if ← word "FROM" then return .extract field false (← inner.expr 0)
  if g.extended then
    expect ","
    return .extract field true (← inner.expr 0)
  refuse

/-- A rounded number after `CEIL` or `FLOOR`. -/
def roundedExpr (g : Grammar) (inner : Inner) (w : String) : Reader Expr := inParens do
  let e ← inner.expr 0
  if ← word "TO" then return .rounded w e (" TO " ++ (← timePart g))
  if ← symbol "," then
    match ← anyConstant with
    | .number digits long => return .rounded w e (", " ++ (Constant.number digits long).text)
    | _ => refuse
  return .rounded w e ""

/-- A place in a text after `POSITION`, else a call of a function of this name. -/
def positionExpr (g : Grammar) (inner : Inner) (function : Ident) : Reader Expr := do
  let found ← attempt (inParens do
    let e ← inner.expr comparisonLevel
    expectWord "IN"
    return .position e (← inner.expr 0))
  match found with
  | some e => return e
  | none => call g inner [function]

/-- A part of a text after `SUBSTRING`. -/
def substringExpr (inner : Inner) : Reader Expr := inParens do
  let e ← inner.expr 0
  let commas ← symbol ","
  let start ← if commas then some <$> inner.expr 0 else after "FROM" (inner.expr 0)
  let counted ← if ← word "FOR" then pure true else symbol ","
  let count ← if counted then some <$> inner.expr 0 else pure none
  return .substring e start count commas

/-- A text with a part of it replaced after `OVERLAY`. -/
def overlayExpr (inner : Inner) : Reader Expr := inParens do
  let e ← inner.expr 0
  expectWord "PLACING"
  let what ← inner.expr 0
  expectWord "FROM"
  let start ← inner.expr 0
  return .overlay e what start (← after "FOR" (inner.expr 0))

/-- A text without its ends after `TRIM`. Where characters may be listed after a comma, the side is
left out. -/
def trimExpr (g : Grammar) (inner : Inner) : Reader Expr := inParens do
  let side := ((← oneOf ["BOTH", "LEADING", "TRAILING"]).map (· ++ " ")).getD ""
  let e ← inner.expr 0
  if ← word "FROM" then return .trim side (some e) (← inner.expr 0) []
  if (← symbol ",") && g.extended then
    return .trim "" none e (← commaList (inner.expr 0))
  return .trim side none e []

/-- How a search in a full text is done, or nothing. -/
def fullTextMode : Reader String := do
  let expansion := ["WITH", "QUERY", "EXPANSION"]
  if ← words ["IN", "NATURAL", "LANGUAGE", "MODE"] then
    return " IN NATURAL LANGUAGE MODE" ++ if ← words expansion then " WITH QUERY EXPANSION" else ""
  if ← words ["IN", "BOOLEAN", "MODE"] then return " IN BOOLEAN MODE"
  if ← words expansion then return " WITH QUERY EXPANSION"
  return ""

/-- A search in a full text after `MATCH`. -/
def fullTextExpr : Reader Expr := do
  let columns ← identList
  expectWord "AGAINST"
  inParens do
    let value ← anyConstant
    return .fullText columns value (← fullTextMode)

/-- Items up to a closing bracket. -/
def arrayExpr (inner : Inner) (named : Bool) : Reader Expr := do
  if ← symbol "]" then return .array named []
  let items ← commaList (inner.expr 0)
  expect "]"
  return .array named items

/-- Keys and values up to a closing brace. -/
def dictionaryExpr (inner : Inner) (named : Bool) (key : Reader Expr) : Reader Expr := do
  if ← symbol "\x7d" then return .dictionary named [] []
  let entries ← commaList do
    let k ← key
    expect ":"
    return (k, ← inner.expr 0)
  expect "\x7d"
  return .dictionary named (entries.map (·.1)) (entries.map (·.2))

/-- A value of a record type after `STRUCT`. Values have names only where the type gives none. -/
def recordExpr (g : Grammar) (inner : Inner) : Reader Expr := do
  let type ← closed (recordType (dataTypeWithin g inner ((← remaining) + 1)))
  let typed := match type with
    | .angled _ _ parts => !parts.isEmpty
    | _ => false
  let values ← inParens (commaList do
    let e ← inner.expr 0
    match ← after "AS" ident with
    | some i => if typed then refuse else return .aliased e i
    | none => return e)
  return .record type values

/-- What an operand is whose first word means nothing in particular. -/
def namedExpr (g : Grammar) (inner : Inner) (first : Ident) : Reader Expr := do
  let rest ← collect (do if ← symbol "." then some <$> ident else pure none)
  if ← isSymbol "(" then call g inner (first :: rest)
  else if !rest.isEmpty then return .compound (first :: rest)
  else
    match ← peek with
    | some (.string value) =>
      if first.value.startsWith "_" then
        let _ ← take
        return .introduced first.value (.string value)
      else return .ident first
    | some (.marked "X" quote value) =>
      if first.value.startsWith "_" then
        let _ ← take
        return .introduced first.value (.marked "X" quote value)
      else return .ident first
    | _ => return .ident first

/-- A function without parentheses, or with arguments and nothing after them. -/
def timeCall (g : Grammar) (inner : Inner) (function : Ident) : Reader Expr := do
  if ← symbol "(" then
    let a ← callArguments g inner
    return .call [function] a.distinct a.args a.phrases
  return .bareCall [function]

/-- An operand after `ARRAY`: items between brackets, a query, or what any other word begins. -/
def arrayOperand (g : Grammar) (inner : Inner) (here : Ident) : Reader Expr := do
  if ← symbol "[" then arrayExpr inner true
  else if !g.columnar && (← isSymbol "(") then .queryCall [here] <$> inParens inner.query
  else namedExpr g inner here

/-- An operand that begins with a word, which has been taken. -/
def wordExpr (g : Grammar) (inner : Inner) (value : String) (quote : Option Char) :
    Reader Expr := do
  let here : Ident := ⟨value, quote⟩
  match (Token.word value quote).keyword with
  | "TRUE" => return .constant (.bool true)
  | "FALSE" => return .constant (.bool false)
  | "NULL" => return .constant .null
  | "CURRENT_TIMESTAMP" | "CURRENT_TIME" | "CURRENT_DATE" | "LOCALTIME" | "LOCALTIMESTAMP" =>
    timeCall g inner here
  | "CURRENT_CATALOG" | "CURRENT_USER" | "SESSION_USER" | "USER" =>
    if g.extended then return .bareCall [here] else namedExpr g inner here
  | "CASE" => caseExpr inner
  | "CONVERT" => convertExpr g inner "CONVERT"
  | "TRY_CONVERT" =>
    if g.extended then convertExpr g inner "TRY_CONVERT" else namedExpr g inner here
  | "CAST" => castExpr g inner "CAST"
  | "TRY_CAST" => castExpr g inner "TRY_CAST"
  | "SAFE_CAST" => castExpr g inner "SAFE_CAST"
  | "EXISTS" => .exists false <$> inParens inner.query
  | "EXTRACT" => extractExpr g inner
  | "CEIL" => roundedExpr g inner "CEIL"
  | "FLOOR" => roundedExpr g inner "FLOOR"
  | "POSITION" => if ← isSymbol "(" then positionExpr g inner here else namedExpr g inner here
  | "SUBSTRING" => substringExpr inner
  | "OVERLAY" => overlayExpr inner
  | "TRIM" => trimExpr g inner
  | "INTERVAL" => intervalExpr g inner
  | "ARRAY" => arrayOperand g inner here
  | "NOT" =>
    if ← word "EXISTS" then .exists true <$> inParens inner.query
    else .unary .not <$> inner.expr notLevel
  | "PRIOR" =>
    if g.hierarchical then return .phrase "PRIOR" [← inner.expr sumLevel] else namedExpr g inner here
  | "MATCH" => if g.extended then fullTextExpr else namedExpr g inner here
  | "STRUCT" => if g.extended then recordExpr g inner else namedExpr g inner here
  | "MAP" =>
    if g.extended && (← symbol "\x7b") then dictionaryExpr inner true (inner.expr 0)
    else namedExpr g inner here
  | _ => namedExpr g inner here

/-! ### Operands -/

/-- A string after the name of its type, or a length of time. -/
def typedString (g : Grammar) (inner : Inner) : Reader Expr := do
  match ← dataType g inner with
  | .builtin "INTERVAL" => intervalExpr g inner
  | .custom _ _ => refuse
  | type => return .typed type (← literal g)

/-- What stands after an opening parenthesis. -/
def parenExpr (inner : Inner) : Reader Expr := do
  let e : Expr ←
    if ← atQuery then .subquery <$> inner.query
    else do
      match ← commaList (inner.expr 0) with
      | [e] => pure (.nested e)
      | es => pure (.tuple es)
  expect ")"
  if ← symbol "." then
    match ← take with
    | .word value quote => return .access e ⟨value, quote⟩
    | _ => refuse
  return e

/-- An operand without the name of a sort order. -/
def bareOperand (g : Grammar) (inner : Inner) : Reader Expr := do
  match ← peek with
  | some (.word value quote) =>
    let _ ← take
    wordExpr g inner value quote
  | some (.symbol s) =>
    if s = ":" ∨ s = "@" then .constant <$> constant g
    else
      let _ ← take
      match s with
      | "[" => arrayExpr inner false
      | "-" => .unary .minus <$> inner.expr productLevel
      | "+" => .unary .plus <$> inner.expr productLevel
      | "(" => parenExpr inner
      | "\x7b" => if g.extended then dictionaryExpr inner false (.ident <$> ident) else refuse
      | _ => refuse
  | _ => .constant <$> constant g

def operand (g : Grammar) (inner : Inner) : Reader Expr := do
  match ← attempt (typedString g inner) with
  | some e => return e
  | none =>
    let e ← bareOperand g inner
    if ← word "COLLATE" then return .collate e (← name) else return e

/-! ### Operators -/

def rightOperand (inner : Inner) (l : Expr) (op : String) (level : Nat) : Reader Expr := do
  match ← oneOf ["ANY", "ALL", "SOME"] with
  | none => return .binary l op (← inner.expr level)
  | some w =>
    let ahead := ((← peekAt 1).map Token.keyword).getD ""
    let r : Expr ←
      if (← isSymbol "(") && (ahead = "SELECT" ∨ ahead = "WITH") then do
        match ← inner.expr level with
        | .subquery q => pure (.subquery q)
        | e => pure (.nested e)
      else .nested <$> inParens (inner.expr level)
    if op ∈ orderOperators then return .quantified l op w r else refuse

def isExpr (inner : Inner) (e : Expr) : Reader Expr := do
  let negated ← word "NOT"
  if ← words ["DISTINCT", "FROM"] then return .isDistinct e negated (← inner.expr 0)
  return .isTest e negated (← expectOneOf ["NULL", "TRUE", "FALSE", "UNKNOWN"])

/-- A list, a query or an array after `IN`. -/
def inExpr (inner : Inner) (e : Expr) (negated : Bool) : Reader Expr := do
  if ← word "UNNEST" then return .inUnnest e negated (← inParens (inner.expr 0))
  inParens do
    if ← atQuery then return .inQuery e negated (← inner.query)
    return .inList e negated (← commaList (inner.expr 0))

def betweenExpr (inner : Inner) (e : Expr) (negated : Bool) : Reader Expr := do
  let low ← inner.expr comparisonLevel
  expectWord "AND"
  return .between e negated low (← inner.expr comparisonLevel)

/-- A pattern after the word for its kind, and the character that escapes in it. -/
def patternExpr (g : Grammar) (inner : Inner) (e : Expr) (negated : Bool) (op : String) :
    Reader Expr := do
  let p ← inner.expr patternLevel
  return .pattern e negated op p (← after "ESCAPE" (literal g))

/-- What follows an operand and `NOT`, or the operand alone. -/
def testExpr (g : Grammar) (inner : Inner) (e : Expr) : Reader Expr := do
  let negated ← word "NOT"
  let regexp ← word "REGEXP"
  let rlike ← word "RLIKE"
  if regexp || rlike then
    let p ← inner.expr patternLevel
    return .pattern e negated (if regexp then "REGEXP" else "RLIKE") p none
  let w ← expectOneOf ["IN", "BETWEEN", "LIKE", "ILIKE", "SIMILAR"]
  if w = "IN" then inExpr inner e negated
  else if w = "BETWEEN" then betweenExpr inner e negated
  else if w = "SIMILAR" then
    expectWord "TO"
    patternExpr g inner e negated "SIMILAR TO"
  else
    let any ← word "ANY"
    patternExpr g inner e negated (if any then w ++ " ANY" else w)

/-- A place in an array, or a part of it between two places, after the opening bracket. -/
def subscriptExpr (inner : Inner) (e : Expr) : Reader Expr := do
  let ended := symbol "]"
  let lower ← if ← symbol ":" then pure none else some <$> inner.expr 0
  if ← ended then
    match lower with
    | some index => return .subscript e index
    | none => return .slice e none none none
  if lower.isSome then expect ":"
  if ← ended then return .slice e lower none none
  let upper ← inner.expr 0
  if ← ended then return .slice e lower (some upper) none
  expect ":"
  if ← ended then return .slice e lower (some upper) none
  let stride ← inner.expr 0
  expect "]"
  return .slice e lower (some upper) (some stride)

/-- The name of an operator after `OPERATOR`, which is any tokens with periods between. -/
def namedOperator : Reader String := inParens do
  let parts ← separatedWithin (Token.text <$> take) (symbol ".") ((← remaining) + 1)
  return "OPERATOR(" ++ ".".intercalate parts ++ ")"

/-- An operand with the operator of this level that comes next. -/
def infixExpr (g : Grammar) (inner : Inner) (e : Expr) (level : Nat) : Reader Expr := do
  match ← peek with
  | some (.symbol s) =>
    let _ ← take
    match s with
    | "::" => return .cast .doubleColon e (← dataType g inner)
    | "[" => subscriptExpr inner e
    | "!" => return .factorial e
    | s =>
      match operatorText? g s with
      | some op => rightOperand inner e op level
      | none => refuse
  | some t =>
    let w := t.keyword
    if w = "AND" ∨ w = "OR" ∨ w = "XOR" then
      let _ ← take
      rightOperand inner e w level
    else if w = "OPERATOR" ∧ g.extended then
      let _ ← take
      rightOperand inner e (← namedOperator) level
    else if w = "IS" then
      let _ ← take
      isExpr inner e
    else if w = "AT" then
      expectWords ["AT", "TIME", "ZONE"]
      return .atTimeZone e (← inner.expr level)
    else testExpr g inner e
  | none => refuse

/-- An operand with all operators above a level, at most `fuel` of them. -/
def operatorsAbove (g : Grammar) (inner : Inner) (level : Nat) : Nat → Expr → Reader Expr
  | 0, _ => refuse
  | fuel + 1, e => do
    let next ← nextLevel
    if next ≤ level then return e
    operatorsAbove g inner level fuel (← infixExpr g inner e next)

/-- An operand and all operators above a level. -/
def exprFrom (g : Grammar) (inner : Inner) (level : Nat) : Reader Expr := do
  let e ← operand g inner
  operatorsAbove g inner level ((← remaining) + 1) e

end SqlDialect.Sql.Reader
