/-!
# Categories and kinds of column types

Every native type of an engine belongs to one storage `Category`, which decides how its values are
written as literals, and stands for one `LogicalKind`, by which a column is placed on another
engine. Both have a fixed order and a name for each member.
-/

namespace SqlDialect

/-- How a type stores its values. -/
inductive Category
  | int1
  | int2
  | int4
  | int8
  | numeric
  | decimal
  | string
  | bool
  | date
  | time
  | dateTime
  | binary
  deriving DecidableEq, Repr

namespace Category

def all : List Category :=
  [int1, int2, int4, int8, numeric, decimal, string, bool, date, time, dateTime, binary]

def name : Category → String
  | int1 => "Int1"
  | int2 => "Int2"
  | int4 => "Int4"
  | int8 => "Int8"
  | numeric => "Numeric"
  | decimal => "Decimal"
  | string => "String"
  | bool => "Bool"
  | date => "Date"
  | time => "Time"
  | dateTime => "DateTime"
  | binary => "Binary"

def ofName? (s : String) : Option Category := all.find? (·.name == s)

/-- Numbers, which are written without quotes. -/
def isNumeric : Category → Bool
  | int1 | int2 | int4 | int8 | numeric | decimal => true
  | _ => false

/-- Points in time. -/
def isTemporal : Category → Bool
  | date | time | dateTime => true
  | _ => false

theorem ofName?_name (c : Category) : ofName? c.name = some c := by cases c <;> decide

end Category

/-- What a type is for, whatever an engine calls it. -/
inductive LogicalKind
  | varchar
  | char
  | text
  | mediumtext
  | longtext
  | int1
  | int2
  | int4
  | int8
  | unsignedInt1
  | unsignedInt2
  | unsignedInt4
  | unsignedInt8
  | decimal
  | numeric
  | bit
  | bool
  | date
  | time
  | datetime
  | timestamp
  | binary
  | varbinary
  | blob
  | mediumblob
  | longblob
  | enum
  | json
  deriving DecidableEq, Repr

namespace LogicalKind

def all : List LogicalKind :=
  [varchar, char, text, mediumtext, longtext, int1, int2, int4, int8, unsignedInt1, unsignedInt2,
    unsignedInt4, unsignedInt8, decimal, numeric, bit, bool, date, time, datetime, timestamp,
    binary, varbinary, blob, mediumblob, longblob, enum, json]

def name : LogicalKind → String
  | varchar => "Varchar"
  | char => "Char"
  | text => "Text"
  | mediumtext => "Mediumtext"
  | longtext => "Longtext"
  | int1 => "Int1"
  | int2 => "Int2"
  | int4 => "Int4"
  | int8 => "Int8"
  | unsignedInt1 => "UnsignedInt1"
  | unsignedInt2 => "UnsignedInt2"
  | unsignedInt4 => "UnsignedInt4"
  | unsignedInt8 => "UnsignedInt8"
  | decimal => "Decimal"
  | numeric => "Numeric"
  | bit => "Bit"
  | bool => "Bool"
  | date => "Date"
  | time => "Time"
  | datetime => "Datetime"
  | timestamp => "Timestamp"
  | binary => "Binary"
  | varbinary => "Varbinary"
  | blob => "Blob"
  | mediumblob => "Mediumblob"
  | longblob => "Longblob"
  | enum => "Enum"
  | json => "Json"

def ofName? (s : String) : Option LogicalKind := all.find? (·.name == s)

theorem ofName?_name (k : LogicalKind) : ofName? k.name = some k := by cases k <;> decide

end LogicalKind

end SqlDialect
