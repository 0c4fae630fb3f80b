import SqlDialect.Cell.Basic
import SqlDialect.Error
/-!
# Result sets

A `Row` holds values under column names; of columns with one name the first counts, and a row may
hold fewer values than names. The `decode` functions read a field as what the catalog of an engine
reports: a text, a text that may be missing, a flag, or a counter that may be missing. Each fails
with an error that names the column, what was expected and what was found.
-/

namespace SqlDialect

structure Row where
  columns : List String
  values : List Cell

namespace Row

def get? (r : Row) (index : Nat) : Option Cell := r.values[index]?

/-- The value in the first column of this name. -/
def field? (r : Row) (name : String) : Option Cell :=
  match r.columns.findIdx? (· == name) with
  | some index => r.get? index
  | none => none

/-- A field that has to be a text. -/
def decodeString (r : Row) (name : String) : Except DbError String :=
  match r.field? name with
  | some (.string s) => .ok s
  | some c => .error (.decode name "string" c.kind)
  | none => .error (.decode name "string" "missing column")

/-- A field that is a text, or anything that is shown as one; NULL and a missing field are `none`. -/
def decodeString? (r : Row) (name : String) : Except DbError (Option String) :=
  match r.field? name with
  | none | some .null => .ok none
  | some (.string s) => .ok (some s)
  | some c =>
    match c with
    | .bytes _ | .array _ | .json _ => .error (.decode name "string" c.kind)
    | c => .ok (some c.text)

/-- A field that is a truth value, or zero or one; NULL and a missing field are `false`. -/
def decodeFlag (r : Row) (name : String) : Except DbError Bool :=
  match r.field? name with
  | none | some .null => .ok false
  | some (.bool b) => .ok b
  | some c =>
    if c.int64? = some 0 then .ok false
    else if c.int64? = some 1 then .ok true
    else .error (.decode name "0 or 1" c.text)

/-- A field that is a natural number; NULL and a missing field are `none`. -/
def decodeCount? (r : Row) (name : String) : Except DbError (Option UInt64) :=
  match r.field? name with
  | none | some .null => .ok none
  | some c =>
    match c.uint64? with
    | some n => .ok (some n)
    | none => .error (.decode name "unsigned integer" c.kind)

end Row

/-- What a result tells about one of its columns. -/
structure ColumnInfo where
  name : String := ""
  dataType : String := ""
  nullable : Bool := false
  ordinal : UInt64 := 0
  deriving DecidableEq, Repr

structure ResultSet where
  columns : List ColumnInfo := []
  rows : List Row := []
  affectedRows : UInt64 := 0

namespace ResultSet

/-- Columns of unknown type under these names, counted from `ordinal`. -/
def columnsFrom (ordinal : UInt64) : List String → List ColumnInfo
  | [] => []
  | name :: names => ⟨name, "", true, ordinal⟩ :: columnsFrom (ordinal + 1) names

/-- The result with these column names and these values in each row. -/
def ofRows (names : List String) (rows : List (List Cell)) : ResultSet where
  columns := columnsFrom 0 names
  rows := rows.map (Row.mk names)

end ResultSet

/-- The outcome of a statement that answers with no rows. -/
structure Outcome where
  /-- How many rows it is reported to have changed. -/
  affectedRows : UInt64
  deriving DecidableEq, Repr

end SqlDialect
