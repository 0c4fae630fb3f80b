import SqlDialect.Json.Decode
import SqlDialect.Json.Printer
/-!
# Connection settings

What is needed to reach a server: the engine, where it listens, who asks, and parameters by name.
A parameter counts before a field of the same meaning.
-/

namespace SqlDialect

/-- Parameters by name, each name once. -/
structure Params where
  entries : List (String × String) := []
  nodup : (entries.map (·.1)).Nodup := by simp

namespace Params

/-- The entries after `key` has been given a value. -/
def putEntry (key value : String) : List (String × String) → List (String × String)
  | [] => [(key, value)]
  | (k, v) :: rest => if k = key then (k, value) :: rest else (k, v) :: putEntry key value rest

theorem mem_keys_putEntry {key value name : String} {es : List (String × String)} :
    name ∈ (putEntry key value es).map (·.1) ↔ name = key ∨ name ∈ es.map (·.1) := by
  induction es with
  | nil => simp [putEntry]
  | cons e es ih =>
    obtain ⟨k, v⟩ := e
    by_cases hk : k = key
    · subst hk
      simp [putEntry]
    · simp only [putEntry, if_neg hk, List.map_cons, List.mem_cons, ih]
      constructor
      · rintro (h | h | h)
        · exact .inr (.inl h)
        · exact .inl h
        · exact .inr (.inr h)
      · rintro (h | h | h)
        · exact .inr (.inl h)
        · exact .inl h
        · exact .inr (.inr h)

theorem nodup_putEntry (key value : String) {es : List (String × String)}
    (h : (es.map (·.1)).Nodup) : ((putEntry key value es).map (·.1)).Nodup := by
  induction es with
  | nil => simp [putEntry]
  | cons e es ih =>
    obtain ⟨k, v⟩ := e
    simp only [List.map_cons, List.nodup_cons] at h
    by_cases hk : k = key
    · subst hk
      simpa [putEntry] using h
    · simp only [putEntry, if_neg hk, List.map_cons, List.nodup_cons, mem_keys_putEntry, not_or]
      exact ⟨⟨hk, h.1⟩, ih h.2⟩

def put (p : Params) (key value : String) : Params :=
  ⟨putEntry key value p.entries, nodup_putEntry key value p.nodup⟩

/-- The parameters given one after the other; of two with one name the later one counts. -/
def ofList (es : List (String × String)) : Params := es.foldl (fun p e => p.put e.1 e.2) {}

def get? (p : Params) (key : String) : Option String :=
  (p.entries.find? fun e => e.1 == key).map (·.2)

/-- The parameters in the order of their names. -/
def sorted (p : Params) : List (String × String) :=
  p.entries.mergeSort fun a b => !(b.1 < a.1)

end Params

/-- How a server is reached. -/
structure ConnectionConfig where
  /-- The engine. -/
  driver : String
  /-- The name under which the connection is shown. -/
  name : String := ""
  host : String := ""
  /-- Zero stands for the port of the engine. -/
  port : UInt16 := 0
  database : Option String := none
  username : Option String := none
  password : Option String := none
  params : Params := {}

namespace ConnectionConfig

/-- The same settings with a parameter: a string as it is, any other value as JSON text. -/
def withParam (c : ConnectionConfig) (key : String) (value : Json) : ConnectionConfig :=
  let text := match value with
    | .string s => s
    | j => j.compact
  { c with params := c.params.put key text }

/-- What the fields say under a name. -/
def field? (c : ConnectionConfig) (key : String) : Option String :=
  match key with
  | "host" => some c.host
  | "database" => c.database
  | "username" | "user" => c.username
  | "password" => c.password
  | _ => none

/-- A setting: the parameter of this name, else the field. -/
def getString? (c : ConnectionConfig) (key : String) : Option String :=
  match c.params.get? key with
  | some value => some value
  | none => c.field? key

/-- Whether a parameter is set to `true` or `1`. -/
def getFlag (c : ConnectionConfig) (key : String) : Bool :=
  match c.params.get? key with
  | some value => value == "true" || value == "1"
  | none => false

def fieldNames : List String :=
  ["driver", "name", "host", "port", "database", "username", "password", "params"]

def stringMember? (m : String × Json) : Option (String × String) :=
  m.2.string?.map fun s => (m.1, s)

/-- Parameters from an object whose values are strings. -/
def params? : Json → Option Params
  | .object members => (members.mapM stringMember?).map Params.ofList
  | _ => none

/-- The settings that a JSON value describes. -/
def ofJson? (j : Json) : Option ConnectionConfig := do
  match ← j.record? fieldNames with
  | [driver, name, host, port, database, username, password, params] =>
    some {
      driver := ← Json.required Json.string? driver
      name := ← Json.optional "" Json.string? name
      host := ← Json.optional "" Json.string? host
      port := ← Json.optional 0
        (fun j => (j.intIn? 0 0x10000).map fun n => UInt16.ofNat n.toNat) port
      database := ← Json.optional none (Json.nullable Json.string?) database
      username := ← Json.optional none (Json.nullable Json.string?) username
      password := ← Json.optional none (Json.nullable Json.string?) password
      params := ← Json.optional {} params? params }
  | _ => none

end ConnectionConfig

end SqlDialect
