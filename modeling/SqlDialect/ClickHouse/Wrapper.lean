import SqlDialect.Schema.Basic
import SqlDialect.Text.Blank
/-!
# Type wrappers

ClickHouse writes a type that allows NULL as `Nullable(…)` and one that is stored by dictionary as
`LowCardinality(…)`. `normalizeType` peels all such wrappers off a type text, whatever their order
and with blanks around what they wrap, and tells whether one of them was `Nullable`.

`ddlType` goes the other way: it is the type text of a column in a definition, with the wrapper put
where the engine accepts it.
-/

namespace SqlDialect.ClickHouse

/-- How a nullable type begins. -/
def nullableOpening : List Char := "Nullable(".toList

/-- How a type stored by dictionary begins. -/
def lowCardinalityOpening : List Char := "LowCardinality(".toList

/-- What stands between an opening and a closing parenthesis at the end. -/
def between? (opening type : List Char) : Option (List Char) :=
  (Text.stripPrefix? opening type).bind (Text.stripSuffix? [')'])

/-- One wrapper less: what it wraps, trimmed, and whether it was `Nullable`. -/
def peel? (type : List Char) : Option (List Char × Bool) :=
  match between? nullableOpening type with
  | some inner => some (Text.trimChars inner, true)
  | none =>
    match between? lowCardinalityOpening type with
    | some inner => some (Text.trimChars inner, false)
    | none => none

theorem between?_eq_some_iff {opening type inner : List Char} :
    between? opening type = some inner ↔ type = opening ++ inner ++ [')'] := by
  simp only [between?, Option.bind_eq_some_iff, Text.stripPrefix?_eq_some_iff,
    Text.stripSuffix?_eq_some_iff]
  constructor
  · rintro ⟨rest, rfl, rfl⟩
    simp
  · rintro rfl
    exact ⟨inner ++ [')'], by simp, rfl⟩

theorem length_between?_lt {opening type inner : List Char}
    (h : between? opening type = some inner) : inner.length < type.length := by
  rw [between?_eq_some_iff] at h
  subst h
  simp only [List.length_append, List.length_singleton]
  omega

theorem length_trimChars_le (s : List Char) : (Text.trimChars s).length ≤ s.length := by
  have hs : (Text.trimStart s).length ≤ s.length := (List.dropWhile_sublist _).length_le
  have he : ((Text.trimStart s).reverse.dropWhile Text.isBlank).length ≤
      (Text.trimStart s).reverse.length := (List.dropWhile_sublist _).length_le
  simp only [Text.trimChars, Text.trimEnd, List.length_reverse] at he ⊢
  exact Nat.le_trans he hs

theorem length_peel?_lt {type inner : List Char} {nullable : Bool}
    (h : peel? type = some (inner, nullable)) : inner.length < type.length := by
  have lt {opening body : List Char} (hb : between? opening type = some body) :
      (Text.trimChars body).length < type.length :=
    Nat.lt_of_le_of_lt (length_trimChars_le body) (length_between?_lt hb)
  unfold peel? at h
  split at h
  · rename_i body hb
    cases h
    exact lt hb
  · split at h
    · rename_i body hb
      cases h
      exact lt hb
    · cases h

/-- A type text without its wrappers, and whether one of them was `Nullable`. -/
def peelAll (type : List Char) : List Char × Bool :=
  match h : peel? type with
  | some (inner, nullable) =>
    have := length_peel?_lt h
    let (base, more) := peelAll inner
    (base, nullable || more)
  | none => (type, false)
termination_by type.length

/-- A type text without its wrappers, trimmed, and whether one of them was `Nullable`. -/
def normalizeType (type : String) : String × Bool :=
  let (base, nullable) := peelAll (Text.trimChars type.toList)
  (String.ofList base, nullable)

/-- A column with its type text normalized; a `Nullable` wrapper makes it nullable. -/
def normalizeColumn (c : Column) : Column :=
  let (base, nullable) := normalizeType c.dataType
  { c with dataType := base, nullable := c.nullable || nullable }

/-- How the types begin that cannot be nullable. -/
def compositeOpenings : List (List Char) :=
  ["Array(", "Map(", "Tuple(", "Nested(", "AggregateFunction(", "SimpleAggregateFunction("].map
    String.toList

def beginsWith (opening type : List Char) : Bool := (Text.stripPrefix? opening type).isSome

/-- A type text that allows NULL. Inside `LowCardinality` the wrapper goes next to the type. -/
def allowNull (type : List Char) : List Char :=
  match between? lowCardinalityOpening type with
  | some inner =>
    if beginsWith nullableOpening inner then type
    else lowCardinalityOpening ++ nullableOpening ++ inner ++ [')', ')']
  | none => nullableOpening ++ type ++ [')']

/-- The type text of a column in a definition. Key columns and composite types are never made
nullable. -/
def ddlTypeChars (c : Column) : List Char :=
  let type := c.dataType.toList
  if !c.nullable || c.isPrimaryKey || beginsWith nullableOpening type ||
      compositeOpenings.any (beginsWith · type) then type
  else allowNull type

def ddlType (c : Column) : String := String.ofList (ddlTypeChars c)

end SqlDialect.ClickHouse
