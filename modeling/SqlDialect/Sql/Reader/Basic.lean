import SqlDialect.Sql.Keyword
import SqlDialect.Sql.Lexer
import SqlDialect.Sql.Tree
/-!
# Readers

A `Reader` takes tokens from the front of a list. It fails for one of two reasons: the tokens are
not what it looks for, or the text nests too deep. `attempt` turns the first reason into `none` and
gives the tokens back; the second one always ends the whole reading.

Expressions, queries and statements contain each other, so a reader for a level of nesting is made
from the readers for the levels below it (`Inner`), and the number of levels is limited.
-/

namespace SqlDialect.Sql

inductive Failure
  | unexpected
  | tooDeep
  deriving DecidableEq, Repr

/-- Takes tokens from the front of a list. -/
abbrev Reader (α : Type) := StateT (List Token) (Except Failure) α

namespace Reader

/-- The next token is not what is looked for. -/
def refuse {α : Type} : Reader α := throw .unexpected

/-- The text nests too deep. -/
def tooDeep {α : Type} : Reader α := throw .tooDeep

/-- What `r` reads, or `none` and no token taken. -/
def attempt {α : Type} (r : Reader α) : Reader (Option α) := fun ts =>
  match r.run ts with
  | .ok (a, rest) => .ok (some a, rest)
  | .error .unexpected => .ok (none, ts)
  | .error .tooDeep => .error .tooDeep

/-- The next token, which stays. -/
def peek : Reader (Option Token) := fun ts => .ok (ts.head?, ts)

/-- The token after `n` others, all of which stay. -/
def peekAt (n : Nat) : Reader (Option Token) := fun ts => .ok (ts[n]?, ts)

/-- The next word in capitals, or an empty text. -/
def peekKeyword : Reader String := fun ts => .ok ((ts.head?.map Token.keyword).getD "", ts)

/-- The next token, which is taken. -/
def take : Reader Token
  | [] => .error .unexpected
  | t :: ts => .ok (t, ts)

/-- Takes the next token if it is `t`. -/
def accept (t : Token) : Reader Bool
  | [] => .ok (false, [])
  | u :: ts => if u = t then .ok (true, ts) else .ok (false, u :: ts)

/-- Takes the next token if it is this symbol. -/
def symbol (s : String) : Reader Bool := accept (.symbol s)

def isSymbol (s : String) : Reader Bool := return (← peek) == some (.symbol s)

def expect (s : String) : Reader Unit := do
  unless ← symbol s do refuse

/-- Takes the next token if it is this keyword. -/
def word (w : String) : Reader Bool
  | [] => .ok (false, [])
  | t :: ts => if t.keyword = w then .ok (true, ts) else .ok (false, t :: ts)

def expectWord (w : String) : Reader Unit := do
  unless ← word w do refuse

def expectWords : List String → Reader Unit
  | [] => pure ()
  | w :: ws => do
    expectWord w
    expectWords ws

/-- Takes these keywords if all of them come next. -/
def words (ws : List String) : Reader Bool := return (← attempt (expectWords ws)).isSome

/-- Takes the next token if it is one of these keywords, and says which. -/
def oneOf (ws : List String) : Reader (Option String) := do
  let w ← peekKeyword
  if w ∈ ws then
    let _ ← take
    return some w
  return none

def expectOneOf (ws : List String) : Reader String := do
  match ← oneOf ws with
  | some w => pure w
  | none => refuse

/-- What `r` reads if the keyword comes next. -/
def after {α : Type} (w : String) (r : Reader α) : Reader (Option α) := do
  if ← word w then some <$> r else pure none

/-- What `r` reads if a comma comes next. -/
def afterComma {α : Type} (r : Reader α) : Reader (Option α) := do
  if ← symbol "," then some <$> r else pure none

/-- What `r` reads if the keywords come next. -/
def afterWords {α : Type} (ws : List String) (r : Reader α) : Reader (Option α) := do
  if ← words ws then some <$> r else pure none

/-- What `r` reads as often as `more` takes something between, at most `fuel` times. -/
def separatedWithin {α : Type} (r : Reader α) (more : Reader Bool) : Nat → Reader (List α)
  | 0 => refuse
  | fuel + 1 => do
    let a ← r
    if ← more then
      let as ← separatedWithin r more fuel
      return a :: as
    return [a]

/-- The number of tokens that are left. -/
def remaining : Reader Nat := fun ts => .ok (ts.length, ts)

/-- What `r` reads, once or several times with commas between. -/
def commaList {α : Type} (r : Reader α) : Reader (List α) := do
  separatedWithin r (symbol ",") ((← remaining) + 1)

/-- What `r` reads, as often as it reads anything, at most `fuel` times. -/
def repeatWithin {α : Type} (r : Reader (Option α)) : Nat → Reader (List α)
  | 0 => pure []
  | fuel + 1 => do
    match ← r with
    | some a => return a :: (← repeatWithin r fuel)
    | none => return []

/-- What `r` reads, as often as it reads anything. -/
def collect {α : Type} (r : Reader (Option α)) : Reader (List α) := do
  repeatWithin r ((← remaining) + 1)

/-- What `r` reads between parentheses. -/
def inParens {α : Type} (r : Reader α) : Reader α := do
  expect "("
  let a ← r
  expect ")"
  return a

def ident : Reader Ident := do
  match ← take with
  | .word value quote => pure ⟨value, quote⟩
  | .string value => pure ⟨value, some '\''⟩
  | _ => refuse

def name : Reader Name := do
  separatedWithin ident (symbol ".") ((← remaining) + 1)

def identList : Reader (List Ident) := inParens (commaList ident)

/-- Identifiers between parentheses, or nothing. -/
def optionalIdentList : Reader (List Ident) := do
  if ← isSymbol "(" then identList else pure []

def optionalIdent : Reader (Option Ident) := attempt ident

/-- The text of a string: one between single quotes, or a word that is no keyword. -/
def literal (g : Grammar) : Reader String := do
  match ← take with
  | .word value quote => if (Token.word value quote).isKeyword then refuse else pure value
  | .string value => pure value
  | .marked mark _ value =>
    if mark = "U&" ∨ (mark = "E" ∧ g.extended) then pure value else refuse
  | _ => refuse

def quotedText : Reader String := do
  match ← take with
  | .string value => pure value
  | _ => refuse

/-- A constant of any grammar. A word is one if it stands between double quotes. -/
def anyConstant : Reader Constant := do
  match ← take with
  | .word value quote =>
    match quote, (Token.word value quote).keyword with
    | some '"', _ => return .quoted value
    | _, "TRUE" => return .bool true
    | _, "FALSE" => return .bool false
    | _, "NULL" => return .null
    | _, _ => refuse
  | .number digits long => return .number digits long
  | .string value => return .string value
  | .marked mark quote value => return .marked mark quote value
  | .dollar tag value => return .dollar tag value
  | .placeholder value => return .placeholder value
  | .symbol s =>
    -- a named placeholder
    if s = ":" ∨ s = "@" then
      match ← take with
      | .word value _ => return .placeholder (s ++ value)
      | .number digits false => return .placeholder (s ++ digits)
      | _ => refuse
    else refuse
  | .other _ => refuse

def constant (g : Grammar) : Reader Constant := do
  match ← anyConstant with
  | .marked "E" quote value => if g.extended then return .marked "E" quote value else refuse
  | c => return c

/-- A natural number below a limit, without zeros in front. -/
def naturalBelow (limit : Nat) : Reader String := do
  match ← take with
  | .number digits _ =>
    match Text.readDigits? digits.toList with
    | some n => if n < limit then pure (toString n) else refuse
    | none => refuse
  | _ => refuse

/-- A natural number that fits into 64 bits, without zeros in front. -/
def natural : Reader String := naturalBelow 0x10000000000000000

/-- A number without a sign, or a placeholder for it. -/
def unsignedNumeral : Reader String := do
  match ← anyConstant with
  | .number digits long => return digits ++ if long then "L" else ""
  | .placeholder value => return value
  | _ => refuse

/-- A number with a sign or without, or a placeholder for it. -/
def numeral : Reader String := do
  let sign ← if ← symbol "+" then pure "+" else if ← symbol "-" then pure "-" else pure ""
  return sign ++ (← unsignedNumeral)

def atQuery : Reader Bool := return (← peekKeyword) ∈ ["SELECT", "WITH"]

end Reader

/-- The readers for what lies one level deeper. -/
structure Inner where
  /-- An expression whose operators bind more tightly than a level. -/
  expr : (level : Nat) → Reader Expr
  query : Reader Query
  /-- Expressions that relate a row to the one above it, with commas between them. Few queries have
  any, so the readers of all levels below are made only where they are asked for. -/
  relations : Unit → Reader (List Expr)

end SqlDialect.Sql
