import SqlDialect.Connection.Basic
import SqlDialect.Text.Blank
/-!
# Scripted connections

A scripted connection answers by the text of a statement. Each rule has a pattern that has to occur
in the text; the first rule that applies counts, and failures come before answers.
-/

namespace SqlDialect

/-- The rules of a scripted connection. -/
structure Script where
  database : String := "default"
  failures : List (String × DbError) := []
  responses : List (String × ResultSet) := []
  affected : List (String × UInt64) := []

namespace Script

/-- What the first rule says whose pattern occurs in a text. -/
def first? {α : Type} (rules : List (String × α)) (sql : String) : Option α :=
  (rules.find? fun rule => Text.contains rule.1.toList sql.toList).map (·.2)

/-- An answer, unless a failure comes before it. -/
def answer {α : Type} (s : Script) (sql : String) (a : α) : Action Bool α :=
  match first? s.failures sql with
  | some e => throw e
  | none => pure a

/-- The connection that answers by a script. Its state is whether it has been closed. -/
def connection (s : Script) : Connection Bool where
  driverName := "scripted"
  database := s.database
  execute sql _ := s.answer sql ⟨(first? s.affected sql).getD 0⟩
  query sql _ := s.answer sql ((first? s.responses sql).getD {})
  close := do
    s.answer "" ()
    set true
  isClosed closed := closed

end Script

end SqlDialect
