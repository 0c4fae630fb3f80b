import SqlDialect.Category
import SqlDialect.Error
import SqlDialect.Text.Blank
/-!
# Native types and their tables

A `TypeTable` lists the types an engine knows, each name once. A type text is resolved by its base,
the trimmed text before the first parenthesis.
-/

namespace SqlDialect

/-- A type of an engine, named without parameters. -/
structure NativeType where
  name : String
  category : Category
  kind : LogicalKind
  deriving DecidableEq, Repr

/-- The types of an engine, in order and without repeated names. -/
structure TypeTable where
  engine : String
  entries : List NativeType
  nodup : (entries.map (·.name)).Nodup

namespace TypeTable

/-- The entries whose name has not occurred before, given the names that have. -/
def firsts : (seen : List String) → List NativeType → List NativeType
  | _, [] => []
  | seen, t :: ts =>
    if t.name ∈ seen then firsts seen ts else t :: firsts (t.name :: seen) ts

theorem not_mem_firsts {seen : List String} {ts : List NativeType} {name : String}
    (h : name ∈ seen) : name ∉ (firsts seen ts).map (·.name) := by
  induction ts generalizing seen with
  | nil => simp [firsts]
  | cons t ts ih =>
    simp only [firsts]
    split
    · exact ih h
    · rename_i ht
      have hne : name ≠ t.name := fun he => ht (he ▸ h)
      simp only [List.map_cons, List.mem_cons, not_or]
      exact ⟨hne, ih (List.mem_cons_of_mem _ h)⟩

theorem nodup_firsts (seen : List String) (ts : List NativeType) :
    ((firsts seen ts).map (·.name)).Nodup := by
  induction ts generalizing seen with
  | nil => simp [firsts]
  | cons t ts ih =>
    simp only [firsts]
    split
    · exact ih seen
    · simp only [List.map_cons, List.nodup_cons]
      exact ⟨not_mem_firsts (List.mem_cons_self ..), ih _⟩

/-- The table of these types; of types with one name the first counts. -/
def ofList (engine : String) (types : List NativeType) : TypeTable :=
  ⟨engine, firsts [] types, nodup_firsts [] types⟩

/-- The type with exactly this name. -/
def get? (t : TypeTable) (name : String) : Option NativeType :=
  t.entries.find? (·.name == name)

theorem get?_name {t : TypeTable} {type : NativeType} (h : type ∈ t.entries) :
    t.get? type.name = some type := by
  have hfind {types : List NativeType} (hnodup : (types.map (·.name)).Nodup)
      (hmem : type ∈ types) : types.find? (·.name == type.name) = some type := by
    induction types with
    | nil => cases hmem
    | cons first types ih =>
      rw [List.map_cons, List.nodup_cons] at hnodup
      rcases List.mem_cons.mp hmem with rfl | hmem
      · exact List.find?_cons_of_pos (beq_self_eq_true _)
      · have hne : first.name ≠ type.name := fun he =>
          hnodup.1 (he ▸ List.mem_map_of_mem hmem)
        rw [List.find?_cons_of_neg (by simpa using hne)]
        exact ih hnodup.2 hmem
  exact hfind t.nodup h

/-- The type with exactly this name, or an error that names it. -/
def lookup (t : TypeTable) (name : String) : Except DbError NativeType :=
  match t.get? name with
  | some type => .ok type
  | none => .error (.unknownDataType t.engine name)

/-- The base of a type text: what stands before the first parenthesis, trimmed. -/
def base (type : String) : String :=
  String.ofList (Text.trimChars (type.toList.takeWhile (· != '(')))

/-- What a type text has from its first parenthesis on. -/
def parameters (type : String) : String :=
  String.ofList (type.toList.dropWhile (· != '('))

/-- The type that a type text with or without parameters stands for. -/
def resolve (t : TypeTable) (type : String) : Except DbError NativeType :=
  match t.get? (base type) with
  | some entry => .ok entry
  | none => .error (.unknownDataType t.engine type)

def ofCategory (t : TypeTable) (c : Category) : List NativeType :=
  t.entries.filter (·.category == c)

end TypeTable

end SqlDialect
