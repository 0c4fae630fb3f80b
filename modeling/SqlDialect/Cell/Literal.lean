import SqlDialect.Category
import SqlDialect.Cell.Basic
import SqlDialect.Text.Blank
import SqlDialect.Text.Utf8
/-!
# Literals

How a cell is written in a statement. The category of the column decides: numbers stand unquoted in
numeric columns and truth values in Boolean ones, everything else stands between single quotes. NULL
is always the word `NULL` and an array a list between brackets.

An engine's `LiteralStyle` gives the words for truth values and for floating point values that are
no numbers, and says whether a backslash escapes the character after it inside quotes.
-/

namespace SqlDialect

/-- How an engine spells the literals that have more than one form. -/
structure LiteralStyle where
  yes : String
  no : String
  /-- Inside quotes a backslash escapes the character after it. -/
  backslashEscapes : Bool
  nan : String
  infinity : String
  negativeInfinity : String

namespace LiteralStyle

/-- Standard SQL. -/
def ansi : LiteralStyle := ⟨"TRUE", "FALSE", false, "'NaN'", "'Infinity'", "'-Infinity'"⟩

/-- One character between single quotes. -/
def escapeChar (style : LiteralStyle) (c : Char) : List Char :=
  if c = '\'' then ['\'', '\'']
  else if c = '\\' ∧ style.backslashEscapes then ['\\', '\\']
  else [c]

/-- A text for the place between single quotes. -/
def escapeChars (style : LiteralStyle) (s : List Char) : List Char := s.flatMap style.escapeChar

/-- A text between single quotes. -/
def quoteChars (style : LiteralStyle) (s : List Char) : List Char :=
  '\'' :: style.escapeChars s ++ ['\'']

/-- A text for the place between single quotes. -/
def escape (style : LiteralStyle) (s : String) : String := String.ofList (style.escapeChars s.toList)

/-- A text between single quotes. -/
def quote (style : LiteralStyle) (s : String) : String := String.ofList (style.quoteChars s.toList)

/-- One byte between single quotes where a backslash escapes. -/
def escapeByte (b : UInt8) : List Char :=
  if b = 0x27 then ['\'', '\'']
  else if b = 0x5C then ['\\', '\\']
  else if 0x20 ≤ b ∧ b ≤ 0x7E then [Char.ofNat b.toNat]
  else '\\' :: 'x' :: Text.hexByte true b

/-- Bytes between single quotes: as text where they are text, else byte by byte if the style has an
escape for bytes, else as text with replacement characters. -/
def quoteByteChars (style : LiteralStyle) (data : List UInt8) : List Char :=
  match Text.Utf8.decode? data with
  | some s => style.quoteChars s
  | none =>
    if style.backslashEscapes then '\'' :: data.flatMap escapeByte ++ ['\'']
    else style.quoteChars (Text.Utf8.decodeLossy data)

/-- Bytes between single quotes. -/
def quoteBytes (style : LiteralStyle) (data : List UInt8) : String :=
  String.ofList (style.quoteByteChars data)

/-- A 64-bit floating point number. -/
def float64 (style : LiteralStyle) (bits : UInt64) : String :=
  match Decimal.binary64.decode bits.toNat with
  | .nan => style.nan
  | .infinite negative => if negative then style.negativeInfinity else style.infinity
  | .finite _ _ _ => Cell.floatText64 bits

/-- A 32-bit floating point number. -/
def float32 (style : LiteralStyle) (bits : UInt32) : String :=
  match Decimal.binary32.decode bits.toNat with
  | .nan => style.nan
  | .infinite negative => if negative then style.negativeInfinity else style.infinity
  | .finite _ _ _ => Cell.floatText32 bits

def truth (style : LiteralStyle) (b : Bool) : String := if b then style.yes else style.no

end LiteralStyle

namespace Cell

/-- A cell between single quotes. -/
def quoted (style : LiteralStyle) : Cell → String
  | null => "NULL"
  | string s | decimal s => style.quote s
  | bytes data => style.quoteBytes data
  | date d => "'" ++ d.text ++ "'"
  | time t => "'" ++ t.text ++ "'"
  | dateTime t => "'" ++ t.text ++ "'"
  | dateTimeUtc t => "'" ++ t.text ++ "'"
  | json j => style.quote j.compact
  | c => style.quote c.text

/-- A text in a numeric column: as it is, less blank characters at its ends, if it is a number. -/
def numericText (style : LiteralStyle) (s : String) : String :=
  let t := Text.trimChars s.toList
  if Text.isPlainNumber t then String.ofList t else style.quote s

def numeric (style : LiteralStyle) : Cell → String
  | int8 n => toString n.toInt
  | int16 n => toString n.toInt
  | int32 n => toString n.toInt
  | int64 n => toString n.toInt
  | uint64 n => toString n.toNat
  | float32 bits => style.float32 bits
  | float64 bits => style.float64 bits
  | bool b => if b then "1" else "0"
  | decimal s | string s => numericText style s
  | c => c.quoted style

def truthOfText? (s : String) : Option Bool :=
  let t := (Text.trimChars s.toList).map Text.lowerAscii
  if t = "true".toList ∨ t = ['1'] then some true
  else if t = "false".toList ∨ t = ['0'] then some false
  else none

def truth? : Cell → Option Bool
  | bool b => some b
  | string s => truthOfText? s
  | c => c.int64?.map fun n => n != 0

def boolean (style : LiteralStyle) (c : Cell) : String :=
  match c.truth? with
  | some b => style.truth b
  | none => c.quoted style

/-- A cell that is neither NULL nor an array. -/
def scalar (category : Category) (style : LiteralStyle) (c : Cell) : String :=
  if category.isNumeric then c.numeric style
  else if category = .bool then c.boolean style
  else c.quoted style

mutual

def literal (category : Category) (style : LiteralStyle) : Cell → String
  | null => "NULL"
  | array items => "[" ++ ", ".intercalate (literals category style items) ++ "]"
  | c => c.scalar category style

def literals (category : Category) (style : LiteralStyle) : List Cell → List String
  | [] => []
  | c :: cs => literal category style c :: literals category style cs

end

theorem literals_eq_map (category : Category) (style : LiteralStyle) (cs : List Cell) :
    literals category style cs = cs.map (literal category style) := by
  induction cs with
  | nil => rfl
  | cons c cs ih => simp [literals, ih]

end Cell

end SqlDialect
