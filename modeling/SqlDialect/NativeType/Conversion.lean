import SqlDialect.NativeType.Basic
import SqlDialect.Schema.Basic
/-!
# Columns moved to another engine

A column read from one engine is placed on another by the logical kind of its type. Parameters go
along only for fixed-width strings and decimals, and only if the new type stands for the same kind.
-/

namespace SqlDialect

/-- An engine's type for each logical kind. -/
abbrev Placement := LogicalKind → NativeType

def Placement.typeText (target : Placement) (source : NativeType) (type : String) : String :=
  let placed := target source.kind
  if placed.kind = source.kind ∧ (source.kind = .char ∨ source.kind = .decimal) then
    placed.name ++ TypeTable.parameters type
  else placed.name

def convertColumn (source : TypeTable) (target : Placement) (c : Column) :
    Except DbError Column := do
  let type ← source.resolve c.dataType
  return { c with dataType := target.typeText type c.dataType }

/-- Columns placed on the target engine, or the error of the first that cannot be resolved. -/
def convertColumns (source : TypeTable) (target : Placement) (cs : List Column) :
    Except DbError (List Column) :=
  cs.mapM (convertColumn source target)

end SqlDialect
