/-!
# JSON values

A `Json` value keeps the members of an object in the order they were written, repeated names
included. `collapse` merges repeated names: each keeps its first place and takes its last value.
-/

namespace SqlDialect

/-- A number: an integer that fits 64 bits, signed or unsigned, or a floating point number given by
its bits. -/
inductive Json.Number
  | integer (n : Int)
  | double (bits : UInt64)
  | single (bits : UInt32)
  deriving DecidableEq

inductive Json
  | null
  | bool (b : Bool)
  | number (n : Json.Number)
  | string (s : String)
  | array (items : List Json)
  | object (members : List (String × Json))

instance : Inhabited Json := ⟨.null⟩

namespace Json

def int (n : Int) : Json := .number (.integer n)

def nat (n : Nat) : Json := .number (.integer n)

def isNull : Json → Bool
  | .null => true
  | _ => false

/-- The members of an object after `name` has been given the value `v`. -/
def insert (name : String) (v : Json) : List (String × Json) → List (String × Json)
  | [] => [(name, v)]
  | (n, w) :: rest => if n = name then (n, v) :: rest else (n, w) :: insert name v rest

def lookup (name : String) : List (String × Json) → Option Json
  | [] => none
  | (n, v) :: rest => if n = name then some v else lookup name rest

/-- Members put into an object one after the other. -/
def insertAll (ms : List (String × Json)) : List (String × Json) :=
  ms.foldl (fun acc m => insert m.1 m.2 acc) []

mutual

/-- Repeated names merged, at every depth. -/
def collapse : Json → Json
  | .array items => .array (collapseItems items)
  | .object members => .object (insertAll (collapseMembers members))
  | j => j

def collapseItems : List Json → List Json
  | [] => []
  | j :: js => collapse j :: collapseItems js

def collapseMembers : List (String × Json) → List (String × Json)
  | [] => []
  | (n, j) :: ms => (n, collapse j) :: collapseMembers ms

end

end Json

end SqlDialect
