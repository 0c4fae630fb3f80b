import SqlDialect.Text.Number
/-!
# Universally unique identifiers

A UUID is a number of 128 bits. It is written as 32 hexadecimal digits in five groups, and read in
that form, without the hyphens, between braces, or after `urn:uuid:`.
-/

namespace SqlDialect

/-- An identifier of 128 bits. -/
structure Uuid where
  value : BitVec 128
  deriving DecidableEq

namespace Uuid

/-- The lengths of the groups between hyphens. -/
def groups : List Nat := [8, 4, 4, 4, 12]

/-- The hexadecimal digits of a number, exactly `count` of them. -/
def hexDigits : (count : Nat) → Nat → List Char
  | 0, _ => []
  | count + 1, n => hexDigits count (n / 16) ++ [Text.hexDigit false (n % 16)]

/-- Digits cut into groups with hyphens between them. -/
def hyphenate : List Nat → List Char → List Char
  | [], _ => []
  | [n], ds => ds.take n
  | n :: ns, ds => ds.take n ++ '-' :: hyphenate ns (ds.drop n)

/-- Five groups of hexadecimal digits. -/
def text (u : Uuid) : String := String.ofList (hyphenate groups (hexDigits 32 u.value.toNat))

/-- The digits of a text that is cut into groups. -/
def unhyphenate? : List Nat → List Char → Option (List Char)
  | [], s => if s.isEmpty then some [] else none
  | [n], s => if s.length = n then some s else none
  | n :: ns, s =>
    match s.drop n with
    | '-' :: rest => (unhyphenate? ns rest).map (s.take n ++ ·)
    | _ => none

def ofDigits? (ds : List Char) : Option Uuid :=
  if ds.length = 32 then (Text.hexDigitsValue? ds).map fun n => ⟨BitVec.ofNat 128 n⟩ else none

/-- Without the braces or the name in front of the five groups. -/
def unwrap? (s : List Char) : List Char :=
  if s.length = 38 ∧ s.head? = some '\x7b' ∧ s.getLast? = some '\x7d' then (s.drop 1).dropLast
  else if s.length = 45 ∧ s.take 9 = "urn:uuid:".toList then s.drop 9
  else s

def read? (s : String) : Option Uuid :=
  let s := s.toList
  if s.length = 32 then ofDigits? s else (unhyphenate? groups (unwrap? s)).bind ofDigits?

end Uuid

end SqlDialect
