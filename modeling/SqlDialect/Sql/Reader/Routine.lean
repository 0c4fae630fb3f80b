import SqlDialect.Sql.Reader.Column
/-!
# Reading definitions of routines

Functions, macros, procedures and triggers. The clauses of a function come in any order, each at most
once; those of a trigger in a fixed order.
-/

namespace SqlDialect.Sql.Reader

/-! ### Functions -/

/-- A parameter of a function. A type that the grammar does not know is its name. -/
def parameter (g : Grammar) (inner : Inner) : Reader Expr := do
  let mode := ((← oneOf ["IN", "OUT", "INOUT"]).map (· ++ " ")).getD ""
  let first ← dataType g inner
  let text ←
    match first with
    | .custom n _ => pure ((n.head?.map fun i => i.text ++ " ").getD "" ++ (← dataType g inner).text)
    | t => pure t.text
  let initial ←
    if ← word "DEFAULT" then some <$> inner.expr 0
    else if ← symbol "=" then some <$> inner.expr 0
    else pure none
  return .phrase (mode ++ text ++ if initial.isSome then " =" else "") initial.toList

/-- The parameters of a function after its opening parenthesis. -/
def parameters (g : Grammar) (inner : Inner) : Reader (List Expr) := do
  if ← symbol ")" then return []
  let ps ← commaList (parameter g inner)
  expect ")"
  return ps

/-- A function and its parameters; without any it is a name. -/
def signature (g : Grammar) (inner : Inner) : Reader Expr := do
  let n ← name
  let ps ← if ← symbol "(" then parameters g inner else pure []
  return if ps.isEmpty then .compound n else .call n "" ps []

/-- What is known of a function. -/
structure FunctionClauses where
  language : Option String := none
  behavior : Option String := none
  onNull : Option String := none
  parallel : Option String := none
  body : Option Expr := none

def functionBody (g : Grammar) : Reader Expr := do
  match ← peek with
  | some (.dollar tag value) =>
    let _ ← take
    return .constant (.dollar tag value)
  | _ => return .constant (.string (← literal g))

/-- A clause that may stand once. -/
def once (set : Bool) (w : String) : Reader Bool := do
  let found ← word w
  if found && set then refuse
  return found

/-- More of what is known of a function, in any order, at most `fuel` clauses. -/
def functionClauses (g : Grammar) (inner : Inner) : (fuel : Nat) → FunctionClauses →
    Reader FunctionClauses
  | 0, c => pure c
  | fuel + 1, c => do
    if ← once c.body.isSome "AS" then
      let b ← functionBody g
      functionClauses g inner fuel { c with body := some (.phrase "AS" [b]) }
    else if ← once c.language.isSome "LANGUAGE" then
      let i ← ident
      functionClauses g inner fuel { c with language := some ("LANGUAGE " ++ i.text) }
    else
    match ← oneOf ["IMMUTABLE", "STABLE", "VOLATILE"] with
    | some w =>
      if c.behavior.isSome then refuse
      functionClauses g inner fuel { c with behavior := some w }
    | none =>
    let onNull ←
      if ← words ["CALLED", "ON", "NULL", "INPUT"] then pure (some "CALLED ON NULL INPUT")
      else if ← words ["RETURNS", "NULL", "ON", "NULL", "INPUT"] then
        pure (some "RETURNS NULL ON NULL INPUT")
      else oneOf ["STRICT"]
    match onNull with
    | some w =>
      if c.onNull.isSome then refuse
      functionClauses g inner fuel { c with onNull := some w }
    | none =>
    if ← once c.parallel.isSome "PARALLEL" then
      let w ← expectOneOf ["UNSAFE", "RESTRICTED", "SAFE"]
      functionClauses g inner fuel { c with parallel := some ("PARALLEL " ++ w) }
    else if ← once c.body.isSome "RETURN" then
      let e ← inner.expr 0
      functionClauses g inner fuel { c with body := some (.phrase "RETURN" [e]) }
    else return c

/-- A definition after `CREATE … FUNCTION`; the words stand between the two. -/
def functionDefinition (g : Grammar) (inner : Inner) (start : String) : Reader (List Expr) := do
  let n ← name
  expect "("
  let ps ← parameters g inner
  let type ← after "RETURNS" (dataType g inner)
  let c ← functionClauses g inner 6 {}
  return .phrase ("CREATE " ++ start ++ "FUNCTION")
      [if ps.isEmpty then .compound n else .call n "" ps []] ::
    optionalPlain (type.map fun t => "RETURNS " ++ t.text) ++ optionalPlain c.language ++
    optionalPlain c.behavior ++ optionalPlain c.onNull ++ optionalPlain c.parallel ++ c.body.toList

/-! ### Macros -/

/-- A parameter of a macro with its value or without. -/
def macroParameter (inner : Inner) : Reader Expr := do
  let i ← ident
  let hasValue ← if ← symbol ":=" then pure true else symbol "=>"
  if hasValue then return .named i ":=" (← inner.expr 0) else return .ident i

/-- A definition after `CREATE … MACRO`; the words stand between the two. Without parameters the
parentheses are left out. -/
def macroDefinition (inner : Inner) (start : String) : Reader Statement := do
  let n ← name
  expect "("
  let ps ← if ← isSymbol ")" then pure [] else commaList (macroParameter inner)
  expect ")"
  expectWord "AS"
  let head : Expr := .phrase ("CREATE " ++ start ++ "MACRO")
    [if ps.isEmpty then .compound n else .call n "" ps []]
  if ← word "TABLE" then return .commandOn [head, .phrase "AS TABLE" []] (← inner.query)
  return .command [head, .phrase "AS" [← inner.expr 0]]

/-! ### Procedures -/

/-- Parameters of a procedure after the opening parenthesis, at most `fuel` of them. A parameter may
be left out, and so may the last one after a comma. -/
def procedureParameters (g : Grammar) (inner : Inner) : (fuel : Nat) → Reader (List String)
  | 0 => refuse
  | fuel + 1 => do
    let p ←
      match ← peek with
      | some (.word ..) => do
        let i ← ident
        pure [i.text ++ " " ++ (← dataType g inner).text]
      | _ => pure []
    let comma ← symbol ","
    if ← symbol ")" then return p
    unless comma do refuse
    return p ++ (← procedureParameters g inner fuel)

/-- A definition after `CREATE … PROCEDURE`, where `body` reads statements. -/
def procedureDefinition (g : Grammar) (inner : Inner) (body : Reader (List Statement))
    (start : String) : Reader Statement := do
  let n ← name
  let hasParameters ← if ← symbol "(" then not <$> symbol ")" else pure false
  let ps ← if hasParameters then procedureParameters g inner ((← remaining) + 1) else pure []
  expectWords ["AS", "BEGIN"]
  let statements ← body
  expectWord "END"
  return .procedure ("CREATE " ++ start ++ "PROCEDURE " ++ Name.text n ++
    if ps.isEmpty then "" else " " ++ parens (commas ps)) statements

/-! ### Triggers -/

/-- What a trigger waits for. -/
def triggerEvent : Reader String := do
  let w ← expectOneOf ["INSERT", "UPDATE", "DELETE", "TRUNCATE"]
  if w ≠ "UPDATE" then return w
  let columns ← after "OF" (commaList ident)
  return w ++ ((columns.map fun is => " OF " ++ commas (is.map Ident.text)).getD "")

/-- A name for the rows before a change or after it, or nothing. The word `OLD` or `NEW` without
`TABLE` ends the names. -/
def transitionTable : Reader (Option String) := do
  match ← oneOf ["OLD", "NEW"] with
  | none => return none
  | some w => after "TABLE" do
    let asWord ← word "AS"
    return w ++ " TABLE" ++ (if asWord then " AS " else " ") ++ Name.text (← name)

/-- A function or procedure that a trigger runs. -/
def triggered (g : Grammar) (inner : Inner) : Reader Expr := do
  let w ← expectOneOf ["FUNCTION", "PROCEDURE"]
  return .phrase ("EXECUTE " ++ w) [← signature g inner]

/-- A definition after `CREATE … TRIGGER`; the words stand between the two. -/
def triggerDefinition (g : Grammar) (inner : Inner) (start : String) : Reader (List Expr) := do
  let n ← name
  let time ← expectOneOf ["BEFORE", "AFTER", "INSTEAD"]
  if time = "INSTEAD" then expectWord "OF"
  let time := if time = "INSTEAD" then "INSTEAD OF" else time
  let events ← separatedWithin triggerEvent (word "OR") ((← remaining) + 1)
  expectWord "ON"
  let table ← name
  let source ← if ← word "FROM" then nameIfAny else pure none
  let checked ← characteristics
  let names ← if ← word "REFERENCING" then collect transitionTable else pure []
  expectWord "FOR"
  let each ← word "EACH"
  let object ← expectOneOf ["ROW", "STATEMENT"]
  let condition ← after "WHEN" (inner.expr 0)
  expectWord "EXECUTE"
  let action ← triggered g inner
  return plain ("CREATE " ++ start ++ "TRIGGER " ++ Name.text n ++ " " ++ time ++ " " ++
      " OR ".intercalate events ++ " ON " ++ Name.text table ++ nameClause " FROM " source) ++
    checked ++
    (if names.isEmpty then [] else plain ("REFERENCING" ++ spaced names)) ++
    plain ("FOR " ++ wordIf each "EACH" ++ object) ++
    (condition.map fun e => .phrase "WHEN" [e]).toList ++ [action]

end SqlDialect.Sql.Reader
