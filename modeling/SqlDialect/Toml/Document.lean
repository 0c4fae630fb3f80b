import SqlDialect.Json.Basic
/-!
# TOML documents

A `Document` grows line by line: a header opens a table, and a key with a value goes into the table
opened last. A key is set once, a table is opened once, and nothing is added to a value.

Once complete, a document is a JSON value: tables are objects, and what JSON has no form for is an
empty array, which is neither text nor number nor table.
-/

namespace SqlDialect.Toml

/-- What a key stands for. -/
inductive Item
  /-- A value, to which nothing can be added. -/
  | value (j : Json)
  /-- A table, and whether a header or a dotted key has opened it. -/
  | table (opened : Bool) (members : List (String × Item))
  /-- Tables under one name, in order. -/
  | tables (earlier : List (List (String × Item))) (last : List (String × Item))

abbrev Members := List (String × Item)

namespace Members

def get? (ms : Members) (key : String) : Option Item := (ms.find? fun m => m.1 == key).map (·.2)

def set (ms : Members) (key : String) (item : Item) : Members :=
  if (ms.get? key).isSome then ms.map fun m => if m.1 = key then (key, item) else m
  else ms ++ [(key, item)]

/-- The members after something has been done to those of the table that `item` is. -/
def within (ms : Members) (key : String) (item : Option Item) (opened : Bool)
    (f : Members → Option Members) : Option Members :=
  match item with
  | none => (f []).map fun inner => ms.set key (.table opened inner)
  | some (.table o inner) => (f inner).map fun inner => ms.set key (.table o inner)
  | some (.tables earlier last) => (f last).map fun last => ms.set key (.tables earlier last)
  | some (.value _) => none

/-- Sets a dotted key. -/
def put (item : Item) : (path : List String) → Members → Option Members
  | [], _ => none
  | [key], ms => if (ms.get? key).isSome then none else some (ms.set key item)
  | key :: path, ms => ms.within key (ms.get? key) true (put item path)

/-- Does something to the members of the table at a path. -/
def at_ (f : Members → Option Members) : (path : List String) → Members → Option Members
  | [], ms => f ms
  | key :: path, ms => ms.within key (ms.get? key) false (at_ f path)

def open_ (key : String) (ms : Members) : Option Members :=
  match ms.get? key with
  | none => some (ms.set key (.table true []))
  | some (.table false inner) => some (ms.set key (.table true inner))
  | _ => none

/-- Opens one more table under this name. -/
def push (key : String) (ms : Members) : Option Members :=
  match ms.get? key with
  | none => some (ms.set key (.tables [] []))
  | some (.tables earlier last) => some (ms.set key (.tables (earlier ++ [last]) []))
  | _ => none

end Members

mutual

def Item.toJson : Item → Json
  | .value j => j
  | .table _ members => .object (membersToJson members)
  | .tables earlier last => .array (tablesToJson earlier ++ [.object (membersToJson last)])

def membersToJson : List (String × Item) → List (String × Json)
  | [] => []
  | (key, item) :: rest => (key, item.toJson) :: membersToJson rest

def tablesToJson : List (List (String × Item)) → List Json
  | [] => []
  | ms :: rest => .object (membersToJson ms) :: tablesToJson rest

end

/-- A document and the table opened last. -/
structure Document where
  members : Members := []
  current : List String := []

namespace Document

/-- Sets a dotted key in the table opened last. -/
def put (d : Document) (path : List String) (j : Json) : Option Document :=
  (Members.at_ (Members.put (.value j) path) d.current d.members).map fun ms =>
    { d with members := ms }

/-- Opens a table, or one more of several tables. -/
def open_ (d : Document) (several : Bool) (path : List String) : Option Document :=
  match path.getLast? with
  | none => none
  | some key =>
    let f := if several then Members.push key else Members.open_ key
    (Members.at_ f path.dropLast d.members).map fun ms => ⟨ms, path⟩

end Document

end SqlDialect.Toml
