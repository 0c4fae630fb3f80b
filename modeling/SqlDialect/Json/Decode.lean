import SqlDialect.Json.Basic
/-!
# Typed values from JSON

How a JSON value is read as a value of a type. A record is an object in which no known name is
repeated and unknown names do not count, or a list of its fields in order; a field left out takes
its default, if it has one. A choice is a name, with a value under it or without.
-/

namespace SqlDialect.Json

def string? : Json → Option String
  | .string s => some s
  | _ => none

def bool? : Json → Option Bool
  | .bool b => some b
  | _ => none

/-- An integer from `low` to below `high`. -/
def intIn? (low high : Int) : Json → Option Int
  | .number (.integer n) => if low ≤ n ∧ n < high then some n else none
  | _ => none

/-- An integer of 64 bits without a sign. -/
def uint64? (j : Json) : Option UInt64 :=
  (j.intIn? 0 0x10000000000000000).map fun n => UInt64.ofNat n.toNat

/-- A value that may be missing. -/
def nullable {α : Type} (f : Json → Option α) : Json → Option (Option α)
  | .null => some none
  | j => (f j).map some

def required {α : Type} (f : Json → Option α) (field : Option Json) : Option α := field.bind f

def optional {α : Type} (default : α) (f : Json → Option α) : Option Json → Option α
  | none => some default
  | some j => f j

def occurrences (name : String) (members : List (String × Json)) : Nat :=
  (members.filter fun m => m.1 == name).length

/-- The fields of a record by their names in order; `none` is no record. -/
def record? (names : List String) : Json → Option (List (Option Json))
  | .object members =>
    if names.all fun name => occurrences name members ≤ 1 then
      some (names.map (lookup · members))
    else none
  | .array items =>
    if items.length ≤ names.length then
      some (items.map some ++ List.replicate (names.length - items.length) none)
    else none
  | _ => none

/-- The name of a choice, and the value under it. -/
def choice? : Json → Option (String × Option Json)
  | .string s => some (s, none)
  | .object [(name, j)] => some (name, some j)
  | _ => none

/-- The name of a choice without a value. -/
def choiceName? (j : Json) : Option String :=
  match j.choice? with
  | some (name, none) | some (name, some .null) => some name
  | _ => none

end SqlDialect.Json
