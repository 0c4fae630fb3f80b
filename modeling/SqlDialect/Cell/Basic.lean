import SqlDialect.Calendar.Basic
import SqlDialect.Json.Printer
import SqlDialect.Text.Number
import SqlDialect.Uuid
/-!
# Cells

A `Cell` is one value of a result row or of a row to be inserted, whatever engine it comes from.
Floating point numbers are held by their bits and decimals by their text, so nothing is lost.

* `Cell.text` is the text shown for a cell.
* `Cell.int64?` and `Cell.uint64?` read a cell as an integer; integer cells and numeric text both
  count.
-/

namespace SqlDialect

/-- A value of any column type. -/
inductive Cell
  | null
  | bool (b : Bool)
  | int8 (n : Int8)
  | int16 (n : Int16)
  | int32 (n : Int32)
  | int64 (n : Int64)
  | uint64 (n : UInt64)
  | float32 (bits : UInt32)
  | float64 (bits : UInt64)
  | decimal (text : String)
  | string (text : String)
  | bytes (data : List UInt8)
  | uuid (u : Uuid)
  | date (d : Calendar.Date)
  | time (t : Calendar.Time)
  | dateTime (t : Calendar.DateTime)
  /-- A point in universal time. -/
  | dateTimeUtc (t : Calendar.DateTime)
  | json (j : Json)
  | array (items : List Cell)

namespace Cell

def isNull : Cell → Bool
  | null => true
  | _ => false

def string? : Cell → Option String
  | string s => some s
  | _ => none

/-- An integer that fits a signed 64-bit word. -/
def toInt64? (n : Int) : Option Int64 :=
  if -0x8000000000000000 ≤ n ∧ n < 0x8000000000000000 then some (Int64.ofInt n) else none

/-- An integer that fits an unsigned 64-bit word. -/
def toUInt64? (n : Int) : Option UInt64 :=
  if 0 ≤ n ∧ n < 0x10000000000000000 then some (UInt64.ofNat n.toNat) else none

/-- A cell as a signed integer: an integer cell, or a string that spells one. -/
def int64? : Cell → Option Int64
  | int8 n => some n.toInt64
  | int16 n => some n.toInt64
  | int32 n => some n.toInt64
  | int64 n => some n
  | uint64 n => toInt64? n.toNat
  | string s => (Text.readInt? s.toList).bind toInt64?
  | _ => none

/-- A cell as an unsigned integer: an integer cell that is not negative, or a string that spells
one without a minus sign. -/
def uint64? : Cell → Option UInt64
  | uint64 n => some n
  | string s => (Text.readNat? s.toList).bind fun n => toUInt64? n
  | c => c.int64?.bind fun n => toUInt64? n.toInt

/-- What a cell holds, in a word. -/
def kind : Cell → String
  | null => "null"
  | bool _ => "bool"
  | int8 _ | int16 _ | int32 _ | int64 _ => "integer"
  | uint64 _ => "unsigned integer"
  | float32 _ | float64 _ => "float"
  | decimal _ => "decimal"
  | string _ => "string"
  | bytes _ => "bytes"
  | uuid _ => "uuid"
  | date _ => "date"
  | time _ => "time"
  | dateTime _ | dateTimeUtc _ => "datetime"
  | json _ => "json"
  | array _ => "array"

/-- The text of a 32-bit floating point number. -/
def floatText32 (bits : UInt32) : String :=
  Decimal.Layout.plain.write Decimal.binary32 bits.toNat

/-- The text of a 64-bit floating point number. -/
def floatText64 (bits : UInt64) : String :=
  Decimal.Layout.plain.write Decimal.binary64 bits.toNat

def text : Cell → String
  | null => "NULL"
  | bool b => if b then "true" else "false"
  | int8 n => toString n.toInt
  | int16 n => toString n.toInt
  | int32 n => toString n.toInt
  | int64 n => toString n.toInt
  | uint64 n => toString n.toNat
  | float32 bits => floatText32 bits
  | float64 bits => floatText64 bits
  | decimal s => s
  | string s => s
  | bytes data => "<" ++ toString data.length ++ " bytes>"
  | uuid u => u.text
  | date d => d.text
  | time t => t.text
  | dateTime t => t.text
  | dateTimeUtc t => t.text ++ " UTC"
  | json j => j.compact
  | array items => "[" ++ toString items.length ++ " items]"

end Cell

end SqlDialect
