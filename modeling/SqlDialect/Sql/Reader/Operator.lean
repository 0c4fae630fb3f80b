import SqlDialect.Sql.Reader.Basic
/-!
# Levels of operators

Each operator has a level: the higher the level, the more tightly it binds. `nextLevel` looks at the
tokens that come next and says the level of the operator they begin, or zero.
-/

namespace SqlDialect.Sql.Reader

/-- `NOT` before its operand. -/
def notLevel : Nat := 15

/-- `LIKE` and its kin. -/
def patternLevel : Nat := 19

/-- `BETWEEN`, `IN` and comparisons. -/
def comparisonLevel : Nat := 20

/-- `PRIOR` binds as a sum does. -/
def sumLevel : Nat := 30

/-- A sign before its operand binds as multiplication does. -/
def productLevel : Nat := 40

/-- A level above that of every operator. -/
def operandLevel : Nat := 100

def patternWords : List String := ["LIKE", "ILIKE", "RLIKE", "REGEXP", "SIMILAR"]

/-- The levels of the operators that are no words. -/
def symbolLevels : List (List String × Nat) :=
  [(["::", "!", "[", "&&", "^@"], 50),
    (["*", "/", "//", "%", "||"], productLevel),
    (["+", "-"], sumLevel),
    (["&"], 23),
    (["^", "#", "<<", ">>"], 22),
    (["|"], 21),
    (["=", "==", "<>", "<", "<=", ">", ">=", "<=>", "~", "~*", "!~", "!~*", "~~", "~~*", "!~~",
      "!~~*"], comparisonLevel),
    (["->", "->>", "#>", "#>>", "@>", "<@", "#-", "@?", "@@"], 16)]

/-- The level of an operator that is a word, given the two words after it. -/
def wordLevel (w next afterNext : String) : Nat :=
  if w = "OR" then 5
  else if w = "AND" then 10
  else if w = "XOR" then 24
  else if w = "AT" then (if next = "TIME" ∧ afterNext = "ZONE" then 41 else 0)
  else if w = "NOT" then
    if next = "IN" ∨ next = "BETWEEN" then comparisonLevel
    else if next ∈ patternWords then patternLevel
    else 0
  else if w = "IS" then 17
  else if w = "IN" ∨ w = "BETWEEN" ∨ w = "OPERATOR" then comparisonLevel
  else if w ∈ patternWords then patternLevel
  else if w = "DIV" then productLevel
  else 0

/-- The level of the operator that comes next, or zero. -/
def nextLevel : Reader Nat := do
  match ← peek with
  | some (.symbol s) =>
    return ((symbolLevels.find? fun p => p.1.contains s).map (·.2)).getD 0
  | some t =>
    let keywordAt (n : Nat) : Reader String := return ((← peekAt n).map Token.keyword).getD ""
    return wordLevel t.keyword (← keywordAt 1) (← keywordAt 2)
  | none => return 0

/-- The text of an operator between operands, if the grammar has it. -/
def operatorText? (g : Grammar) (s : String) : Option String :=
  if s = "==" then some "="
  else if s ∈ ["#", "&&"] then none
  else if s ∈ ["//", "<<", ">>", "^@"] ∧ !g.extended then none
  else some s

/-- The comparisons that may stand before `ANY`, `SOME` and `ALL`. -/
def orderOperators : List String := [">", "<", ">=", "<=", "=", "<>"]

end SqlDialect.Sql.Reader
