import SqlDialect.Json.Basic
import SqlDialect.Decimal.Shortest
import SqlDialect.Text.Number
/-!
# Compact JSON text

`Json.compact` writes a value without any blank character. In strings only the quote, the backslash
and control characters are escaped, those with a short escape by it.
-/

namespace SqlDialect.Json

def escapeChar (c : Char) : List Char :=
  match c with
  | '"' => "\\\"".toList
  | '\\' => "\\\\".toList
  | '\x08' => "\\b".toList
  | '\x0c' => "\\f".toList
  | '\n' => "\\n".toList
  | '\r' => "\\r".toList
  | '\t' => "\\t".toList
  | c =>
    if c.toNat < 0x20 then
      "\\u00".toList ++
        [Text.hexDigit false (c.toNat / 16), Text.hexDigit false (c.toNat % 16)]
    else [c]

/-- A string between double quotes. -/
def quoteChars (s : List Char) : List Char := '"' :: s.flatMap escapeChar ++ ['"']

/-- A string between double quotes. -/
def quote (s : String) : String := String.ofList (quoteChars s.toList)

def Number.text : Number → String
  | .integer n => toString n
  | .double bits => Decimal.Layout.json.write Decimal.binary64 bits.toNat
  | .single bits => Decimal.Layout.json.write Decimal.binary32 bits.toNat

mutual

/-- A value without blank characters. -/
def compact : Json → String
  | .null => "null"
  | .bool true => "true"
  | .bool false => "false"
  | .number n => n.text
  | .string s => quote s
  | .array items => "[" ++ ",".intercalate (compactItems items) ++ "]"
  | .object members => "\x7b" ++ ",".intercalate (compactMembers members) ++ "\x7d"

def compactItems : List Json → List String
  | [] => []
  | j :: js => compact j :: compactItems js

def compactMembers : List (String × Json) → List String
  | [] => []
  | (n, j) :: ms => (quote n ++ ":" ++ compact j) :: compactMembers ms

end

end SqlDialect.Json
