import SqlDialect.Sql.Reader.DataType
import SqlDialect.Sql.Reader.Operator
/-!
# Reading parts and lengths of time

The parts of a point in time, such as `YEAR`, and the lengths of time after `INTERVAL`.
-/

namespace SqlDialect.Sql.Reader

def intervalUnits : List String :=
  ["YEAR", "MONTH", "WEEK", "DAY", "HOUR", "MINUTE", "SECOND", "CENTURY", "DECADE", "DOW", "DOY",
    "EPOCH", "ISODOW", "ISOYEAR", "JULIAN", "MICROSECOND", "MICROSECONDS", "MILLENIUM",
    "MILLENNIUM", "MILLISECOND", "MILLISECONDS", "NANOSECOND", "NANOSECONDS", "QUARTER", "TIMEZONE",
    "TIMEZONE_HOUR", "TIMEZONE_MINUTE"]

def timeParts : List String :=
  intervalUnits ++ ["DATE", "DATETIME", "DAYOFWEEK", "DAYOFYEAR", "ISOWEEK", "TIME", "TIMEZONE_ABBR",
    "TIMEZONE_REGION"]

def timePart (g : Grammar) : Reader String := do
  match ← oneOf timeParts with
  | some w =>
    if w = "WEEK" ∧ g.extended ∧ (← isSymbol "(") then
      return "WEEK(" ++ (← inParens ident).text ++ ")"
    return w
  | none => if g.extended then return (← ident).text else refuse

/-- A size between parentheses with a blank before it, or nothing. -/
def spacedSize : Reader String := do
  let n ← size
  return if n = "" then "" else " " ++ n

/-- The precision after the unit `SECOND`: of its whole part, or of that and of its fraction. -/
def secondPrecision : Reader String := do
  if ← symbol "(" then
    let whole ← natural
    let fraction ← if ← symbol "," then (", " ++ ·) <$> natural else pure ""
    expect ")"
    return " (" ++ whole ++ fraction ++ ")"
  return ""

/-- What follows the number of an interval: its unit with a precision, or a range of units. -/
def intervalTail (g : Grammar) : Reader String := do
  let atUnit := (← peekKeyword) ∈ intervalUnits
  if g.columnar && !atUnit then refuse
  let unit ← if atUnit then (" " ++ ·) <$> timePart g else pure ""
  if unit = " SECOND" then return unit ++ (← secondPrecision)
  let wholePrecision ← spacedSize
  if ← word "TO" then
    let last ← timePart g
    let fraction ← if last = "SECOND" then spacedSize else pure ""
    return unit ++ wholePrecision ++ " TO " ++ last ++ fraction
  return unit ++ wholePrecision

/-- A length of time after `INTERVAL`. Where a unit is needed, any expression may stand before it. -/
def intervalExpr (g : Grammar) (inner : Inner) : Reader Expr := do
  let value ← inner.expr (if g.columnar then 0 else operandLevel)
  return .interval value (← intervalTail g)

end SqlDialect.Sql.Reader
