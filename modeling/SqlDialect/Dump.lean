import SqlDialect.Generator.Basic
import SqlDialect.Text.Utf8
/-!
# Dumps

A dump is a script that creates a table and inserts its rows again, some rows at a time, with
headings in comments. It is written to a `Sink`, which may have room for a limited number of bytes;
a sink that is full has taken all bytes up to its limit.
-/

namespace SqlDialect

/-- What takes the bytes of a dump. -/
structure Sink where
  written : List UInt8 := []
  /-- How many more bytes it takes, if there is a limit. -/
  room : Option Nat := none

/-- Something that writes to a sink. -/
abbrev Writing (α : Type) := ExceptT DbError (StateM Sink) α

namespace Writing

/-- Writes bytes, or those for which there is room. -/
def bytes (data : List UInt8) : Writing Unit := fun sink =>
  match sink.room with
  | none => (.ok (), ⟨sink.written ++ data, none⟩)
  | some n =>
    if data.length ≤ n then (.ok (), ⟨sink.written ++ data, some (n - data.length)⟩)
    else (.error .writerFull, ⟨sink.written ++ data.take n, some 0⟩)

def line (s : String) : Writing Unit := bytes (Text.Utf8.encode (s.toList ++ ['\n']))

def lineUnlessEmpty (s : String) : Writing Unit := if s = "" then pure () else line s

end Writing

/-- What an engine puts around the inserts of a dump. -/
structure DumpHelper where
  /-- A line before the inserts into a table. -/
  beforeInsert : (table : String) → String := fun _ => ""
  /-- A line after the inserts into a table. -/
  afterInsert : (table : String) → String := fun _ => ""
  /-- What ends a statement. -/
  terminator : String := ";"

/-- A list in pieces of `size` members, the last one perhaps shorter; a size of zero counts as
one. -/
def batches {α : Type} (size : Nat) : List α → List (List α)
  | [] => []
  | a :: as => (a :: as.take (size - 1)) :: batches size (as.drop (size - 1))
termination_by as => as.length

namespace DumpHelper

variable (h : DumpHelper)

/-- Writes statements, each on a line of its own. -/
def statements (ss : List String) : Writing Unit := ss.forM fun s => Writing.line (s ++ h.terminator)

/-- Writes the statements that insert a batch of rows. -/
def batch (g : Generator) (table : String) (cs : List Column) (rows : List (List Cell)) :
    Writing Unit := do
  let ss ← liftExcept (g.insert table cs rows .none)
  h.statements ss
where
  /-- An error ends the writing. -/
  liftExcept {α : Type} (r : Except DbError α) : Writing α := fun sink => (r, sink)

def dump (g : Generator) (t : Table) (cs : List Column) (rows : List (List Cell)) (drop : Bool)
    (size : Nat) : Writing Unit := do
  Writing.line ("-- Table structure for " ++ t.tableName)
  h.statements (g.tableDdl t cs drop)
  if rows.isEmpty then pure ()
  else
    Writing.line ""
    Writing.line ("-- Records of " ++ t.tableName)
    Writing.lineUnlessEmpty (h.beforeInsert t.tableName)
    (batches size rows).forM (h.batch g t.tableName cs)
    Writing.lineUnlessEmpty (h.afterInsert t.tableName)

end DumpHelper

end SqlDialect
