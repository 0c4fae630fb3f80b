import SqlDialect.Error
import SqlDialect.Sql.Printer
import SqlDialect.Sql.Reader.Statement
/-!
# Scripts

A script is a list of statements with semicolons between them. `readScript` reads all of them or
none, `split` gives each statement's text, and `readExpression` reads a text that is one expression
and nothing more.

`isReadOnly` looks at the outermost form of each statement: all have to be queries, plans or
listings of what the catalog holds, and there has to be one at least.
-/

namespace SqlDialect.Sql

def readScript (g : Grammar) (sql : String) : Except DbError (List Statement) :=
  match tokens g sql with
  | none => .error .unreadableScript
  | some ts =>
    match (Reader.statements g (2 * ts.length + 1) true).run ts with
    | .ok (statements, _) => .ok statements
    | .error _ => .error .unreadableScript

/-- The texts of the statements of a script. -/
def split (g : Grammar) (sql : String) : Except DbError (List String) :=
  (readScript g sql).map (·.map Statement.text)

def readExpression (g : Grammar) (sql : String) : Except DbError Expr :=
  match tokens g sql with
  | none => .error .unreadableExpression
  | some ts =>
    match ((Reader.atDepth g Reader.depthLimit).expr 0).run ts with
    | .ok (e, []) => .ok e
    | .ok (_, t :: _) => .error (.trailingToken t.text)
    | .error _ => .error .unreadableExpression

/-- A query, a plan, or a listing of tables, of columns or of a definition. -/
def Statement.isReadOnly : Statement → Bool
  | .query _ | .explain .. | .explainTable .. | .showTables .. | .showColumns .. | .showCreate .. =>
    true
  | _ => false

/-- Whether a script has statements, all of them read-only by their outermost form. -/
def isReadOnly (g : Grammar) (sql : String) : Except DbError Bool :=
  (readScript g sql).map fun statements =>
    !statements.isEmpty && statements.all Statement.isReadOnly

end SqlDialect.Sql
