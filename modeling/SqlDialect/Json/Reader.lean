import SqlDialect.Json.Basic
import SqlDialect.Decimal.Binary
import SqlDialect.Text.Number
/-!
# Reading JSON text

The reader is strict: one value between JSON's four blank characters, numbers without a plus sign or
superfluous zeros, no control characters in strings, surrogate escapes in pairs. Arrays and objects
nest at most `nestingLimit` deep. A number in integer syntax that fits 64 bits is an integer, every
other one a floating point number; one beyond their range is refused.
-/

namespace SqlDialect.Json

/-- How deep arrays and objects may nest. -/
def nestingLimit : Nat := 127

/-- The blank characters between tokens. -/
def isGap (c : Char) : Bool := c == ' ' || c == '\n' || c == '\t' || c == '\r'

/-- Without the blank characters in front. -/
def skipGap (s : List Char) : List Char := s.dropWhile isGap

/-! ### Strings -/

/-- The character after a backslash, other than `u`. -/
def unescape? : Char → Option Char
  | '"' => some '"'
  | '\\' => some '\\'
  | '/' => some '/'
  | 'b' => some '\x08'
  | 'f' => some '\x0c'
  | 'n' => some '\n'
  | 'r' => some '\r'
  | 't' => some '\t'
  | _ => none

def surrogatePair (high low : Nat) : Char :=
  Char.ofNat (0x10000 + (high - 0xD800) * 0x400 + (low - 0xDC00))

/-- The characters up to the closing quote, and what follows it. -/
def stringBody : List Char → Option (List Char × List Char)
  | [] => none
  | '"' :: r => some ([], r)
  | '\\' :: 'u' :: a :: b :: c :: d :: r =>
    match Text.hexDigitsValue? [a, b, c, d] with
    | none => none
    | some n =>
      if n < 0xD800 || 0xE000 ≤ n then
        (stringBody r).map fun (s, rest) => (Char.ofNat n :: s, rest)
      else if 0xDC00 ≤ n then none
      else
        match r with
        | '\\' :: 'u' :: a' :: b' :: c' :: d' :: r' =>
          match Text.hexDigitsValue? [a', b', c', d'] with
          | none => none
          | some m =>
            if 0xDC00 ≤ m && m < 0xE000 then
              (stringBody r').map fun (s, rest) => (surrogatePair n m :: s, rest)
            else none
        | _ => none
  | ['\\'] => none
  | '\\' :: e :: r =>
    match unescape? e with
    | none => none
    | some c => (stringBody r).map fun (s, rest) => (c :: s, rest)
  | c :: r =>
    if c.toNat < 0x20 then none else (stringBody r).map fun (s, rest) => (c :: s, rest)

/-! ### Numbers -/

structure Numeral where
  negative : Bool
  whole : List Char
  /-- The digits after the point, if there is one. -/
  places : Option (List Char)
  exponent : Option Int

/-- A fraction: a point and digits, or nothing. -/
def readPlaces? : List Char → Option (Option (List Char) × List Char)
  | '.' :: r =>
    let ds := r.takeWhile Text.isDigit
    if ds.isEmpty then none else some (some ds, r.dropWhile Text.isDigit)
  | s => some (none, s)

def readExponent? : List Char → Option (Option Int × List Char)
  | c :: r =>
    if c = 'e' ∨ c = 'E' then
      let (negative, r) := match r with
        | '+' :: r => (false, r)
        | '-' :: r => (true, r)
        | r => (false, r)
      let ds := r.takeWhile Text.isDigit
      if ds.isEmpty then none
      else
        let n : Int := Text.digitsValue ds
        some (some (if negative then -n else n), r.dropWhile Text.isDigit)
    else some (none, c :: r)
  | [] => some (none, [])

/-- A number at the front of a text, and what follows it. -/
def readNumeral? (s : List Char) : Option (Numeral × List Char) :=
  let (negative, s) := match s with
    | '-' :: r => (true, r)
    | r => (false, r)
  let whole := s.takeWhile Text.isDigit
  if whole.isEmpty || (whole.head? == some '0' && 1 < whole.length) then none
  else do
    let (places, s) ← readPlaces? (s.dropWhile Text.isDigit)
    let (exponent, s) ← readExponent? s
    some (⟨negative, whole, places, exponent⟩, s)

/-- Takes digits into a significand as long as it fits 64 bits; gives the significand and how many
digits were taken. -/
def gather (significand : Nat) : List Char → Nat × Nat
  | [] => (significand, 0)
  | d :: ds =>
    let next := significand * 10 + Text.digitValue d
    if next < 0x10000000000000000 then
      let (s, taken) := gather next ds
      (s, taken + 1)
    else (significand, 0)

/-- The value of a numeral. A floating point number is rounded from the digits that fit a 64-bit
significand, further ones count as zeros. -/
def Numeral.value? (n : Numeral) : Option Number :=
  let (significand, taken) := gather 0 n.whole
  let (significand', takenPlaces) := gather significand (n.places.getD [])
  if n.places.isNone ∧ n.exponent.isNone ∧ taken = n.whole.length ∧
      (n.negative = false ∨ (0 < significand ∧ significand ≤ 0x8000000000000000)) then
    some (.integer (if n.negative then -(significand : Int) else significand))
  else
    let exponent : Int := (n.whole.length - taken : Nat) - (takenPlaces : Int) + n.exponent.getD 0
    (Decimal.scaleByTen significand' exponent).map fun magnitude =>
      .double (UInt64.ofNat (Decimal.binary64.signed n.negative magnitude))

/-! ### Values -/

/-- Reads one value at the front of a text, without blank characters before it. -/
abbrev Reader := List Char → Option (Json × List Char)

/-- The items of an array after its bracket, one at least. -/
def readItems (item : Reader) : Nat → List Char → Option (List Json × List Char)
  | 0, _ => none
  | fuel + 1, s => do
    let (j, s) ← item (skipGap s)
    match skipGap s with
    | ',' :: r => do
      let (js, rest) ← readItems item fuel r
      some (j :: js, rest)
    | ']' :: r => some ([j], r)
    | _ => none

/-- The members of an object after its brace, one at least. -/
def readMembers (item : Reader) : Nat → List Char → Option (List (String × Json) × List Char)
  | 0, _ => none
  | fuel + 1, s =>
    match skipGap s with
    | '"' :: r => do
      let (name, r) ← stringBody r
      match skipGap r with
      | ':' :: r => do
        let (j, r) ← item (skipGap r)
        match skipGap r with
        | ',' :: r => do
          let (ms, rest) ← readMembers item fuel r
          some ((String.ofList name, j) :: ms, rest)
        | '\x7d' :: r => some ([(String.ofList name, j)], r)
        | _ => none
      | _ => none
    | _ => none

/-- A value that is neither array nor object. -/
def readScalar : Reader
  | 'n' :: 'u' :: 'l' :: 'l' :: r => some (.null, r)
  | 't' :: 'r' :: 'u' :: 'e' :: r => some (.bool true, r)
  | 'f' :: 'a' :: 'l' :: 's' :: 'e' :: r => some (.bool false, r)
  | '"' :: r => (stringBody r).map fun (s, rest) => (.string (String.ofList s), rest)
  | s => do
    let (n, rest) ← readNumeral? s
    let n ← n.value?
    some (.number n, rest)

/-- A value in which arrays and objects nest at most `depth` deep. -/
def readValue : (depth : Nat) → Reader
  | 0, s => readScalar s
  | depth + 1, s =>
    match s with
    | '[' :: r =>
      match skipGap r with
      | ']' :: rest => some (.array [], rest)
      | r => (readItems (readValue depth) r.length r).map fun (js, rest) => (.array js, rest)
    | '\x7b' :: r =>
      match skipGap r with
      | '\x7d' :: rest => some (.object [], rest)
      | r => (readMembers (readValue depth) r.length r).map fun (ms, rest) => (.object ms, rest)
    | s => readScalar s

/-- The value that a whole text is, with repeated names as they were written. -/
def readRaw? (s : String) : Option Json :=
  match readValue nestingLimit (skipGap s.toList) with
  | some (j, rest) => if (skipGap rest).isEmpty then some j else none
  | none => none

def read? (s : String) : Option Json := (readRaw? s).map collapse

end SqlDialect.Json
