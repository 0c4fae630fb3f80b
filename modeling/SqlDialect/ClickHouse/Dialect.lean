import SqlDialect.ClickHouse.Generator
import SqlDialect.Dialect
/-!
# ClickHouse's dialect

A table is copied by a definition after the other table and, if asked for, an insert of all its
rows. After a load the table is merged, so that rows that replace others do so at once.
-/

namespace SqlDialect.ClickHouse

def copyStatements (request : CopyRequest) : List String :=
  let source := quoting.quoteQualified request.tableName
  let target := quoting.quoteQualified request.newTableName
  let create := "CREATE TABLE " ++ target ++ " AS " ++ source
  if request.copyData then [create, "INSERT INTO " ++ target ++ " SELECT * FROM " ++ source]
  else [create]

/-- What the engine says about its SQL. It prefers few large inserts to many small ones. -/
def dialect : Dialect where
  engine := engine
  quoting := quoting
  generator := generator
  grammar := .clickHouse
  copyStatements request := .ok (copyStatements request)
  batchSize := 10000
  afterLoad table := ["OPTIMIZE TABLE " ++ quoting.quoteQualified table ++ " FINAL"]

end SqlDialect.ClickHouse
