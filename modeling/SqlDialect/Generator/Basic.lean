import SqlDialect.Cell.Literal
import SqlDialect.Identifier
import SqlDialect.NativeType.Basic
import SqlDialect.Schema.Basic
/-!
# Statement generators

A `Vocabulary` is what an engine's statements are written with: the quotes of identifiers, the
literals of values, and the types that pick the literal of a column. It is enough to write
assignments, conditions, and the statements that all engines share.

A `Generator` adds the statements in which engines differ. Its fields with a default are those that
standard SQL has.
-/

namespace SqlDialect

/-- A condition on rows: the value that each column has to have. -/
abbrev Filter := List (Column × Cell)

/-- What statements are written with. -/
structure Vocabulary where
  quoting : Quoting
  style : LiteralStyle
  types : TypeTable
  /-- The type by which the values of a column are written. -/
  resolve : Column → Except DbError NativeType := fun c => types.resolve c.dataType

namespace Vocabulary

variable (v : Vocabulary)

def literal (c : Column) (value : Cell) : Except DbError String :=
  (v.resolve c).map fun type => value.literal type.category v.style

def assignment (c : Column) (value : Cell) : Except DbError String :=
  (v.literal c value).map fun text => v.quoting.quote c.columnName ++ " = " ++ text

/-- Columns and the values they are given, as many values as columns. -/
def assignments (cs : List Column) (values : List Cell) : Except DbError String :=
  if cs.length = values.length then do
    let parts ← (cs.zip values).mapM fun (c, value) => v.assignment c value
    return ", ".intercalate parts
  else .error (.valueCount cs.length values.length)

/-- One condition: equality, or a test for NULL. -/
def condition (c : Column) (value : Cell) : Except DbError String :=
  if value.isNull then .ok (v.quoting.quote c.columnName ++ " IS NULL")
  else v.assignment c value

/-- All conditions of a filter, or nothing if it has none. -/
def filter (f : Filter) : Except DbError (Option String) :=
  if f.isEmpty then .ok none
  else do
    let parts ← f.mapM fun (c, value) => v.condition c value
    return some (" AND ".intercalate parts)

/-- A statement that goes on with a condition, if there is one. -/
def withFilter (statement : String) (f : Filter) : Except DbError String := do
  match ← v.filter f with
  | some condition => return statement ++ " WHERE " ++ condition
  | none => return statement

/-- Gives columns new values in the rows that meet a filter. -/
def update (table : String) (cs : List Column) (values : List Cell) (f : Filter) :
    Except DbError String := do
  let parts ← v.assignments cs values
  v.withFilter ("UPDATE " ++ v.quoting.quoteQualified table ++ " SET " ++ parts) f

/-- Removes the rows that meet a filter, all rows if it is empty. -/
def delete (table : String) (f : Filter) : Except DbError String :=
  v.withFilter ("DELETE FROM " ++ v.quoting.quoteQualified table) f

def createDatabase (name : String) : String := "CREATE DATABASE " ++ v.quoting.quote name

def dropDatabase (name : String) : String := "DROP DATABASE " ++ v.quoting.quote name

end Vocabulary

structure Generator extends Vocabulary where
  /-- The statements that create a table, perhaps after dropping one of its name. -/
  tableDdl : (table : Table) → (columns : List Column) → (drop : Bool) → List String
  /-- The statements that create the indexes of a table. -/
  indexDdl : (table : Table) → (indexes : List Index) → List String
  /-- The statements that insert rows, in the order in which they are to be executed. -/
  insert : (table : String) → (columns : List Column) → (rows : List (List Cell)) →
    DuplicateStrategy → Except DbError (List String)
  update : (table : String) → (columns : List Column) → (values : List Cell) → Filter →
    Except DbError String := toVocabulary.update
  delete : (table : String) → Filter → Except DbError String := toVocabulary.delete
  createDatabase : (name : String) → String := toVocabulary.createDatabase
  dropDatabase : (name : String) → String := toVocabulary.dropDatabase

end SqlDialect
