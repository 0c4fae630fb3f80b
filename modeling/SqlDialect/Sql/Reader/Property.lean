import SqlDialect.Sql.Printer
import SqlDialect.Sql.Reader.Basic
/-!
# Reading properties and options of columns

Properties with their values, when constraints are checked, sequences, and the options of a column,
each read as phrases.

Some options belong to other engines. Where a grammar lacks one, its word is taken all the same and
says nothing; the column ends there.
-/

namespace SqlDialect.Sql.Reader

/-- Words that say all there is to say. -/
def plain (words : String) : List Expr := [.phrase words []]

/-- The phrase of some words, if there are any. -/
def optionalPlain (words : Option String) : List Expr := (words.map fun w => .phrase w []).toList

def ifNotExists : Reader Bool := words ["IF", "NOT", "EXISTS"]

def ifExists : Reader Bool := words ["IF", "EXISTS"]

/-- The words `IF NOT EXISTS` with a blank after them, or nothing. -/
def ifNotExistsText : Reader String := return if ← ifNotExists then "IF NOT EXISTS " else ""

/-- The words `IF EXISTS` with a blank after them, or nothing. -/
def ifExistsText : Reader String := return if ← ifExists then "IF EXISTS " else ""

/-- A name. A token in its place is taken and says nothing. -/
def nameIfAny : Reader (Option Name) := do
  match ← attempt name with
  | some n => return some n
  | none =>
    let _ ← attempt take
    return none

/-! ### Properties -/

/-- A column and its direction in the order that rows are kept in. -/
def clusteredColumn : Reader String := do
  let i ← ident
  return i.text ++ textClause " " (← oneOf ["ASC", "DESC"])

/-- How rows are kept after `CLUSTERED`. -/
def clusteredProperty : Reader Expr := do
  if ← words ["COLUMNSTORE", "INDEX"] then
    let start := "CLUSTERED COLUMNSTORE INDEX"
    let columns ← after "ORDER" identList
    return .phrase (start ++ ((columns.map fun is => " ORDER " ++ columnList is).getD "")) []
  expectWord "INDEX"
  let columns ← inParens (commaList clusteredColumn)
  return .phrase ("CLUSTERED INDEX " ++ parens (commas columns)) []

/-- The bounds of partitions after `PARTITION`, with the side that a bound belongs to. -/
def partitionProperty (inner : Inner) : Reader Expr := inParens do
  let i ← ident
  expectWord "RANGE"
  let side ← oneOf ["LEFT", "RIGHT"]
  expectWords ["FOR", "VALUES"]
  let values ← inParens (commaList (inner.expr 0))
  return .phrase "PARTITION"
    [.nested (.phrase (i.text ++ " RANGE" ++ textClause " " side ++ " FOR VALUES") [.tuple values])]

/-- A property: a name and a value, or where the grammar has them a heap, partitions or an order of
rows. -/
def property (g : Grammar) (inner : Inner) : Reader Expr := do
  let w ← peekKeyword
  if w = "HEAP" ∧ g.extended then return .ident (← ident)
  if g.extended && (← word "PARTITION") then return ← partitionProperty inner
  if g.extended && (← word "CLUSTERED") then return ← clusteredProperty
  let i ← ident
  expect "="
  return .binary (.ident i) "=" (← inner.expr 0)

/-- Properties between parentheses, which may be none. -/
def properties (g : Grammar) (inner : Inner) : Reader (List Expr) := do
  expect "("
  if ← symbol ")" then return []
  let es ← commaList (property g inner)
  expect ")"
  return es

/-- Properties after a word, or nothing. -/
def propertiesAfter (g : Grammar) (inner : Inner) (w : String) : Reader (List Expr) := do
  return (← after w (properties g inner)).getD []

/-! ### What constraints are made of -/

/-- When a constraint is checked: deferrability, the time and enforcement, each at most once. -/
structure Characteristics where
  deferrable : Option String := none
  initially : Option String := none
  enforced : Option String := none

/-- More of when a constraint is checked, in any order, at most `fuel` words. -/
def moreCharacteristics : (fuel : Nat) → Characteristics → Reader Characteristics
  | 0, c => pure c
  | fuel + 1, c => do
    if c.deferrable.isNone && (← words ["NOT", "DEFERRABLE"]) then
      moreCharacteristics fuel { c with deferrable := some "NOT DEFERRABLE" }
    else if c.deferrable.isNone && (← word "DEFERRABLE") then
      moreCharacteristics fuel { c with deferrable := some "DEFERRABLE" }
    else if c.initially.isNone && (← word "INITIALLY") then
      let w ← expectOneOf ["DEFERRED", "IMMEDIATE"]
      moreCharacteristics fuel { c with initially := some ("INITIALLY " ++ w) }
    else if c.enforced.isNone && (← word "ENFORCED") then
      moreCharacteristics fuel { c with enforced := some "ENFORCED" }
    else if c.enforced.isNone && (← words ["NOT", "ENFORCED"]) then
      moreCharacteristics fuel { c with enforced := some "NOT ENFORCED" }
    else return c

/-- When a constraint is checked. -/
def characteristics : Reader (List Expr) := do
  let c ← moreCharacteristics 4 {}
  return optionalPlain c.deferrable ++ optionalPlain c.initially ++ optionalPlain c.enforced

/-- What happens to rows that refer to a row that goes away. -/
def referentialAction : Reader String := do
  if ← words ["SET", "NULL"] then return "SET NULL"
  if ← words ["SET", "DEFAULT"] then return "SET DEFAULT"
  if ← words ["NO", "ACTION"] then return "NO ACTION"
  expectOneOf ["RESTRICT", "CASCADE"]

/-- What happens on `DELETE` and on `UPDATE`, in either order, each at most once. -/
def referentialActions : Reader (List Expr) := do
  let onDelete : Reader (Option String) := afterWords ["ON", "DELETE"] referentialAction
  let onUpdate : Reader (Option String) := afterWords ["ON", "UPDATE"] referentialAction
  let first ← onDelete
  let update ← onUpdate
  let delete ← if first.isNone then onDelete else pure first
  return optionalPlain (delete.map ("ON DELETE " ++ ·)) ++
    optionalPlain (update.map ("ON UPDATE " ++ ·))

/-- A condition between parentheses after `CHECK`. -/
def check (inner : Inner) : Reader (List Expr) := do
  return [.phrase "CHECK" [.nested (← inParens (inner.expr 0))]]

/-! ### Sequences -/

/-- A bound of a sequence after its word, or none. -/
def sequenceBound (w : String) : Reader (List Expr) := do
  if ← word w then return plain (w ++ " " ++ (← numeral))
  if ← words ["NO", w] then return plain ("NO " ++ w)
  return []

def sequenceOptions : Reader (List Expr) := do
  let step ← after "INCREMENT" do
    let by_ ← word "BY"
    return "INCREMENT " ++ wordIf by_ "BY" ++ (← numeral)
  let least ← sequenceBound "MINVALUE"
  let greatest ← sequenceBound "MAXVALUE"
  let start ← after "START" do
    let with_ ← word "WITH"
    return "START " ++ wordIf with_ "WITH" ++ (← numeral)
  let cache ← after "CACHE" numeral
  let cycle ←
    if ← words ["NO", "CYCLE"] then pure (plain "NO CYCLE")
    else if ← word "CYCLE" then pure (plain "CYCLE")
    else pure []
  return optionalPlain step ++ least ++ greatest ++ optionalPlain start ++
    optionalPlain (cache.map ("CACHE " ++ ·)) ++ cycle

/-- A column whose values come from a sequence, after the words for it. -/
def identityOption (start : String) : Reader (List Expr) := do
  if ← symbol "(" then
    let options ← sequenceOptions
    expect ")"
    return if options.isEmpty then plain start else plain (start ++ " (") ++ options ++ plain ")"
  return plain start

/-- A column whose values are computed, after the words for it. -/
def computedOption (inner : Inner) (start : String) : Reader (List Expr) := do
  let e ← inParens (inner.expr 0)
  return .phrase start [.nested e] :: optionalPlain (← oneOf ["STORED", "VIRTUAL"])

/-- A column whose values are generated, after `GENERATED`; nothing if the form is another one. -/
def generatedOption (inner : Inner) : Reader (Option (List Expr)) := do
  if ← words ["ALWAYS", "AS", "IDENTITY"] then
    some <$> identityOption "GENERATED ALWAYS AS IDENTITY"
  else if ← words ["BY", "DEFAULT", "AS", "IDENTITY"] then
    some <$> identityOption "GENERATED BY DEFAULT AS IDENTITY"
  else if ← words ["ALWAYS", "AS"] then
    if ← isSymbol "(" then some <$> computedOption inner "GENERATED ALWAYS AS" else return none
  else return none

/-! ### Options of a column -/

/-- An option that every grammar has. -/
def commonOption (inner : Inner) : Reader (Option (List Expr)) := do
  if ← words ["CHARACTER", "SET"] then
    return some (plain ("CHARACTER SET " ++ Name.text (← name)))
  if ← words ["NOT", "NULL"] then return some (plain "NOT NULL")
  if ← word "COMMENT" then return some (plain ("COMMENT " ++ enclose '\'' (← quotedText)))
  if ← word "NULL" then return some (plain "NULL")
  if ← word "EPHEMERAL" then
    if (← isSymbol ",") || (← isSymbol ")") then return some (plain "EPHEMERAL")
    return some [.phrase "EPHEMERAL" [← inner.expr 0]]
  match ← oneOf ["DEFAULT", "MATERIALIZED", "ALIAS"] with
  | some w => return some [.phrase w [← inner.expr 0]]
  | none => pure ()
  if ← words ["PRIMARY", "KEY"] then return some (plain "PRIMARY KEY" ++ (← characteristics))
  if ← word "UNIQUE" then return some (plain "UNIQUE" ++ (← characteristics))
  if ← word "REFERENCES" then
    let table ← name
    let columns ← optionalIdentList
    let actions ← referentialActions
    return some (plain ("REFERENCES " ++ Name.text table ++
      if columns.isEmpty then "" else " " ++ columnList columns) ++ actions ++ (← characteristics))
  if ← word "CHECK" then return some (← check inner)
  return none

/-- An option of another engine, in a grammar that has most of them. -/
def otherOption (g : Grammar) (inner : Inner) : Reader (Option (List Expr)) := do
  match ← oneOf ["AUTO_INCREMENT", "AUTOINCREMENT", "ASC", "DESC"] with
  | some w => return some (plain w)
  | none => pure ()
  if ← words ["ON", "UPDATE"] then return some [.phrase "ON UPDATE" [← inner.expr 0]]
  if ← word "GENERATED" then generatedOption inner
  else if ← word "OPTIONS" then
    return some [.call [⟨"OPTIONS", none⟩] "" (← properties g inner) []]
  else if ← word "AS" then some <$> computedOption inner "AS"
  else if ← word "IDENTITY" then
    if ← symbol "(" then
      let seed ← numeral
      expect ","
      let step ← numeral
      expect ")"
      return some (plain ("IDENTITY(" ++ seed ++ ", " ++ step ++ ")"))
    return some (plain "IDENTITY")
  else if ← words ["ON", "CONFLICT"] then
    return some (plain ("ON CONFLICT " ++
      (← expectOneOf ["ROLLBACK", "ABORT", "FAIL", "IGNORE", "REPLACE"])))
  else return none

/-- An option of another engine, in a grammar that has only generated columns. The words of the other
options are taken in a fixed order. -/
def foreignOption (inner : Inner) : Reader (Option (List Expr)) := do
  let _ ← word "AUTO_INCREMENT"
  let _ ← word "AUTOINCREMENT"
  let _ ← word "ASC"
  let _ ← word "DESC"
  let _ ← words ["ON", "UPDATE"]
  if ← word "GENERATED" then generatedOption inner
  else
    let _ ← word "AS"
    let _ ← word "IDENTITY"
    return none

def columnOption (g : Grammar) (inner : Inner) : Reader (Option (List Expr)) := do
  match ← commonOption inner with
  | some option => return some option
  | none => if g.extended then otherOption g inner else foreignOption inner

/-- A collation that may stand among the options. -/
inductive ColumnPart
  | option (phrases : List Expr)
  | collation (name : Name)

/-- An option of a column with a name for it or without, or a collation; nothing at the end. -/
def columnPart (g : Grammar) (inner : Inner) : Reader (Option ColumnPart) := do
  if ← word "CONSTRAINT" then
    let i ← ident
    match ← columnOption g inner with
    | some option => return some (.option (.phrase ("CONSTRAINT " ++ i.text) [] :: option))
    | none => refuse
  match ← columnOption g inner with
  | some option => return some (.option option)
  | none =>
    if g.extended && (← word "COLLATE") then return some (.collation (← name))
    return none

/-- What follows the type of a column: its collation, of which the last one holds, and its options. -/
def columnTail (g : Grammar) (inner : Inner) : Reader (Option Name × List Expr) := do
  let collation ← after "COLLATE" name
  let parts ← collect (columnPart g inner)
  let last := parts.foldl
    (fun c p =>
      match p with
      | .collation n => some n
      | .option _ => c) collation
  let options := parts.flatMap fun p =>
    match p with
    | .option phrases => phrases
    | .collation _ => []
  return (last, options)

end SqlDialect.Sql.Reader
