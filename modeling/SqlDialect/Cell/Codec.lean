import SqlDialect.Calendar.Reader
import SqlDialect.Cell.Basic
import SqlDialect.Json.Decode
/-!
# Cells as JSON

A cell is written as the name of its variant with its content under it, NULL as a name alone. Dates
and times are written as text, bytes as a list of numbers, documents as they are. `Cell.ofJson?`
reads what `Cell.toJson` writes.
-/

namespace SqlDialect

namespace Cell

/-- The name of a variant with its content. -/
def tagged (name : String) (content : Json) : Json := .object [(name, content)]

mutual

def toJson : Cell → Json
  | null => .string "Null"
  | bool b => tagged "Bool" (.bool b)
  | int8 n => tagged "Int8" (.int n.toInt)
  | int16 n => tagged "Int16" (.int n.toInt)
  | int32 n => tagged "Int32" (.int n.toInt)
  | int64 n => tagged "Int64" (.int n.toInt)
  | uint64 n => tagged "UInt64" (.nat n.toNat)
  | float32 bits => tagged "Float32" (.number (.single bits))
  | float64 bits => tagged "Float64" (.number (.double bits))
  | decimal s => tagged "Decimal" (.string s)
  | string s => tagged "String" (.string s)
  | bytes data => tagged "Bytes" (.array (data.map fun b => .nat b.toNat))
  | uuid u => tagged "Uuid" (.string u.text)
  | date d => tagged "Date" (.string d.text)
  | time t => tagged "Time" (.string t.text)
  | dateTime t => tagged "DateTime" (.string t.isoText)
  | dateTimeUtc t => tagged "DateTimeUtc" (.string (t.isoText ++ "Z"))
  | json j => tagged "Json" j
  | array items => tagged "Array" (.array (toJsons items))

def toJsons : List Cell → List Json
  | [] => []
  | c :: cs => toJson c :: toJsons cs

end

/-- A 64-bit floating point number from a number of any kind. -/
def double? : Json → Option UInt64
  | .number (.double bits) => some bits
  | .number (.single bits) =>
    some (UInt64.ofNat (Decimal.binary32.convert Decimal.binary64 bits.toNat))
  | .number (.integer n) =>
    some (UInt64.ofNat (Decimal.binary64.signed (n < 0) (Decimal.binary64.round n.natAbs 1)))
  | _ => none

/-- A 32-bit floating point number from a number of any kind. -/
def single? : Json → Option UInt32
  | .number (.double bits) =>
    some (UInt32.ofNat (Decimal.binary64.convert Decimal.binary32 bits.toNat))
  | .number (.single bits) => some bits
  | .number (.integer n) =>
    some (UInt32.ofNat (Decimal.binary32.signed (n < 0) (Decimal.binary32.round n.natAbs 1)))
  | _ => none

def bytes? : Json → Option (List UInt8)
  | .array items => items.mapM fun j => (j.intIn? 0 256).map fun n => UInt8.ofNat n.toNat
  | _ => none

/-- A cell of a variant that holds no cells. -/
def ofContent? (name : String) (j : Json) : Option Cell :=
  match name with
  | "Bool" => j.bool?.map bool
  | "Int8" => (j.intIn? (-0x80) 0x80).map fun n => int8 (Int8.ofInt n)
  | "Int16" => (j.intIn? (-0x8000) 0x8000).map fun n => int16 (Int16.ofInt n)
  | "Int32" => (j.intIn? (-0x80000000) 0x80000000).map fun n => int32 (Int32.ofInt n)
  | "Int64" => (j.intIn? (-0x8000000000000000) 0x8000000000000000).map fun n =>
    int64 (Int64.ofInt n)
  | "UInt64" => j.uint64?.map uint64
  | "Float32" => (single? j).map float32
  | "Float64" => (double? j).map float64
  | "Decimal" => j.string?.map decimal
  | "String" => j.string?.map string
  | "Bytes" => (bytes? j).map bytes
  | "Uuid" => (j.string?.bind Uuid.read?).map uuid
  | "Date" => (j.string?.bind Calendar.Date.read?).map date
  | "Time" => (j.string?.bind Calendar.Time.read?).map time
  | "DateTime" => (j.string?.bind Calendar.DateTime.read?).map dateTime
  | "DateTimeUtc" => (j.string?.bind Calendar.DateTime.readUtc?).map dateTimeUtc
  | "Json" => some (json j.collapse)
  | _ => none

mutual

def ofJson? : Json → Option Cell
  | .string s => if s = "Null" then some null else none
  | .object [(name, .array items)] =>
    if name = "Array" then (ofJsons? items).map array else ofContent? name (.array items)
  | .object [(name, j)] => if name = "Null" ∧ j.isNull then some null else ofContent? name j
  | _ => none

/-- `ofJson?` on each value; `none` if one of them stands for no cell. -/
def ofJsons? : List Json → Option (List Cell)
  | [] => some []
  | j :: js =>
    match ofJson? j, ofJsons? js with
    | some c, some cs => some (c :: cs)
    | _, _ => none

end

end Cell

end SqlDialect
