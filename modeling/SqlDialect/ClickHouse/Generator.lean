import SqlDialect.ClickHouse.Types
import SqlDialect.ClickHouse.Wrapper
import SqlDialect.Generator.Basic
import SqlDialect.Sql.Script
/-!
# ClickHouse's statements

The engine has no keys that refuse a second row, so an insert that is to replace rows first deletes
those with the same key, and it changes and deletes rows by `ALTER TABLE`. Indexes are a part of the
definition of a table.

A default of a column is written only if it reads as one expression, and then as the tree that was
read.
-/

namespace SqlDialect.ClickHouse

/-- Identifiers, literals and types; the literal of a wrapped type is that of what it wraps. -/
def vocabulary : Vocabulary where
  quoting := quoting
  style := literals
  types := types
  resolve c := types.resolve (normalizeType c.dataType).1

/-! ### Definitions -/

def nonEmpty? (s : Option String) : Option String := s.filter (· != "")

def defaultClause (c : Column) : String :=
  match nonEmpty? c.defaultValue with
  | none => ""
  | some text =>
    match Sql.readExpression .clickHouse text with
    | .ok e => " DEFAULT " ++ e.text
    | .error _ => ""

def commentClause (comment : Option String) : String :=
  match nonEmpty? comment with
  | none => ""
  | some text => " COMMENT " ++ literals.quote text

def columnDefinition (c : Column) : String :=
  "  " ++ quoting.quote c.columnName ++ " " ++ ddlType c ++ defaultClause c ++
    commentClause c.comment

/-- The storage of a table that is not sorted. -/
def storageClause : String := "ENGINE = MergeTree() ORDER BY tuple()"

def createTable (t : Table) (cs : List Column) : String :=
  "CREATE TABLE " ++ quoting.quoteQualified t.tableName ++ " (\n" ++
    ",\n".intercalate (cs.map columnDefinition) ++ "\n) " ++ storageClause ++
    commentClause t.comment

def dropTable (name : String) : String := "DROP TABLE IF EXISTS " ++ quoting.quoteQualified name

/-- The definition of a table, perhaps after dropping one of its name; nothing without columns. -/
def tableDdl (t : Table) (cs : List Column) (drop : Bool) : List String :=
  if cs.isEmpty then []
  else if drop then [dropTable t.tableName, createTable t cs]
  else [createTable t cs]

def tableComment (table comment : String) : String :=
  "ALTER TABLE " ++ quoting.quoteQualified table ++ " MODIFY COMMENT " ++ literals.quote comment

def columnComment (table column comment : String) : String :=
  "ALTER TABLE " ++ quoting.quoteQualified table ++ " COMMENT COLUMN " ++ quoting.quote column ++
    " " ++ literals.quote comment

/-! ### Rows -/

def rowLiterals (ts : List NativeType) (row : List Cell) : List String :=
  List.zipWith (fun (type : NativeType) value => value.literal type.category literals) ts row

/-- A row between parentheses. -/
def rowText (ts : List NativeType) (row : List Cell) : String :=
  "(" ++ ", ".intercalate (rowLiterals ts row) ++ ")"

/-- The first row from `index` on that has not as many values as there are columns. -/
def firstMisfit? (columns : Nat) : (index : Nat) → List (List Cell) → Option DbError
  | _, [] => none
  | index, row :: rows =>
    if row.length = columns then firstMisfit? columns (index + 1) rows
    else some (.rowWidth index row.length columns)

/-- Inserts rows whose width is right. -/
def insertRows (table : String) (cs : List Column) (ts : List NativeType)
    (rows : List (List Cell)) : String :=
  "INSERT INTO " ++ quoting.quoteQualified table ++ " (" ++
    ", ".intercalate (cs.map fun c => quoting.quote c.columnName) ++ ") VALUES " ++
    ", ".intercalate (rows.map (rowText ts))

/-- The place of the key: the first column of the primary key, else the first column. -/
def keyIndex (cs : List Column) : Nat := (cs.findIdx? (·.isPrimaryKey)).getD 0

/-- The strings that are not in `seen`, each once, in order of first occurrence. -/
def distinctFrom (seen : List String) : List String → List String
  | [] => []
  | s :: ss => if s ∈ seen then distinctFrom seen ss else s :: distinctFrom (s :: seen) ss

/-- The keys of the rows as literals, without NULL and each once. -/
def keyLiterals (index : Nat) (category : Category) (rows : List (List Cell)) : List String :=
  distinctFrom [] ((rows.filterMap (·[index]?)).filterMap fun value =>
    if value.isNull then none else some (value.literal category literals))

def deleteKeys (table : String) (key : Column) (keys : List String) : String :=
  "ALTER TABLE " ++ quoting.quoteQualified table ++ " DELETE WHERE " ++
    quoting.quote key.columnName ++ " IN (" ++ ", ".intercalate keys ++ ")"

/-- The statement that makes room for rows whose keys exist, if any row has a key. -/
def makeRoom (table : String) (cs : List Column) (ts : List NativeType)
    (rows : List (List Cell)) : List String :=
  match cs[keyIndex cs]?, ts[keyIndex cs]? with
  | some key, some type =>
    let keys := keyLiterals (keyIndex cs) type.category rows
    if keys.isEmpty then [] else [deleteKeys table key keys]
  | _, _ => []

def insert (table : String) (cs : List Column) (rows : List (List Cell))
    (strategy : DuplicateStrategy) : Except DbError (List String) :=
  if rows.isEmpty then .ok []
  else if cs.isEmpty then .error (.noColumns table)
  else do
    let ts ← cs.mapM vocabulary.resolve
    match firstMisfit? cs.length 0 rows with
    | some e => .error e
    | none =>
      let statement := insertRows table cs ts rows
      match strategy with
      | .none | .ignore => return [statement]
      | .update => return makeRoom table cs ts rows ++ [statement]

/-! ### Changes -/

/-- A condition that all rows meet stands for an empty filter. -/
def conditionOf (f : Filter) : Except DbError String :=
  (vocabulary.filter f).map (·.getD "1 = 1")

/-- Gives columns new values in the rows that meet a filter. -/
def update (table : String) (cs : List Column) (values : List Cell) (f : Filter) :
    Except DbError String := do
  let parts ← vocabulary.assignments cs values
  let condition ← conditionOf f
  return "ALTER TABLE " ++ quoting.quoteQualified table ++ " UPDATE " ++ parts ++ " WHERE " ++
    condition

/-- Removes the rows that meet a filter. -/
def delete (table : String) (f : Filter) : Except DbError String := do
  let condition ← conditionOf f
  return "ALTER TABLE " ++ quoting.quoteQualified table ++ " DELETE WHERE " ++ condition

def generator : Generator where
  toVocabulary := vocabulary
  tableDdl := tableDdl
  indexDdl _ _ := []
  insert := insert
  update := update
  delete := delete
  createDatabase name := "CREATE DATABASE IF NOT EXISTS " ++ quoting.quote name
  dropDatabase name := "DROP DATABASE IF EXISTS " ++ quoting.quote name

end SqlDialect.ClickHouse
