/-!
# Integers and numerals as text

How the library reads numbers that arrive as text. `readInt?` accepts one sign and ASCII digits,
`readNat?` the same without a minus sign. `isNumeral` is the grammar of a plain decimal number:
an optional sign, digits with at most one point among or before them, and an optional exponent.
`isFloat` is what reads as a floating point number, also as an infinite one or as none, and
`isPlainNumber` is the test for a text that may stand in a statement without quotes.
-/

namespace SqlDialect.Text

/-- An ASCII digit. -/
def isDigit (c : Char) : Bool := '0' ≤ c && c ≤ '9'

def digitValue (c : Char) : Nat := c.toNat - '0'.toNat

def digitsValue (ds : List Char) : Nat := ds.foldl (fun n c => n * 10 + digitValue c) 0

def readDigits? (s : List Char) : Option Nat :=
  if s ≠ [] ∧ s.all isDigit = true then some (digitsValue s) else none

/-- A natural number, after one plus sign or none. -/
def readNat? : List Char → Option Nat
  | '+' :: s => readDigits? s
  | s => readDigits? s

/-- An integer, after one sign or none. -/
def readInt? : List Char → Option Int
  | '-' :: s => (readDigits? s).map fun n => -(n : Int)
  | s => (readNat? s).map Int.ofNat

/-- What remains after one sign or none. -/
def dropSign : List Char → List Char
  | '+' :: s => s
  | '-' :: s => s
  | s => s

/-- One or more digits. -/
def isDigits (s : List Char) : Bool := !s.isEmpty && s.all isDigit

/-- Nothing, or `e` or `E` followed by an optional sign and digits. -/
def isExponent : List Char → Bool
  | [] => true
  | c :: s => (c == 'e' || c == 'E') && isDigits (dropSign s)

/-- Digits with an optional point after them or among them, or a point and digits; then an optional
exponent. -/
def isUnsignedNumeral (s : List Char) : Bool :=
  let whole := s.takeWhile isDigit
  match s.dropWhile isDigit with
  | '.' :: r =>
    let places := r.takeWhile isDigit
    !(whole.isEmpty && places.isEmpty) && isExponent (r.dropWhile isDigit)
  | r => !whole.isEmpty && isExponent r

/-- A decimal number in plain or scientific notation. -/
def isNumeral (s : List Char) : Bool := isUnsignedNumeral (dropSign s)

/-- A natural number with zeros in front, so that it has at least `width` digits. -/
def padded (width n : Nat) : List Char :=
  let ds := Nat.toDigits 10 n
  List.replicate (width - ds.length) '0' ++ ds

/-- A hexadecimal digit of a value below sixteen. -/
def hexDigit (upper : Bool) (n : Nat) : Char :=
  if n < 10 then Char.ofNat ('0'.toNat + n)
  else Char.ofNat ((if upper then 'A' else 'a').toNat + (n - 10))

/-- The value of a hexadecimal digit of either case. -/
def hexValue? (c : Char) : Option Nat :=
  if isDigit c then some (digitValue c)
  else if 'a' ≤ c && c ≤ 'f' then some (c.toNat - 'a'.toNat + 10)
  else if 'A' ≤ c && c ≤ 'F' then some (c.toNat - 'A'.toNat + 10)
  else none

def hexDigitsValue? (ds : List Char) : Option Nat :=
  ds.foldlM (fun n c => (hexValue? c).map (n * 16 + ·)) 0

def hexByte (upper : Bool) (b : UInt8) : List Char :=
  [hexDigit upper (b.toNat / 16), hexDigit upper (b.toNat % 16)]

/-- An ASCII capital letter as the small one. -/
def lowerAscii (c : Char) : Char :=
  if 'A' ≤ c && c ≤ 'Z' then Char.ofNat (c.toNat + 32) else c

/-- An ASCII small letter as the capital one. -/
def upperAscii (c : Char) : Char :=
  if 'a' ≤ c && c ≤ 'z' then Char.ofNat (c.toNat - 32) else c

/-- Equality up to the case of ASCII letters. -/
def eqIgnoreCase (s t : List Char) : Bool := s.map lowerAscii == t.map lowerAscii

/-- What reads as a floating point number: a decimal number or, after one sign or none, a word for
an infinite value or for one that is no number, in any case of its letters. -/
def isFloat (s : List Char) : Bool :=
  isNumeral s || ["inf", "infinity", "nan"].any fun w => eqIgnoreCase w.toList (dropSign s)

def isNumeralChar (c : Char) : Bool := isDigit c || ['+', '-', '.', 'e', 'E'].contains c

/-- A number that nothing could take for a name or an expression: it has a digit, and it reads as a
floating point number by characters of decimal numbers alone. -/
def isPlainNumber (s : List Char) : Bool :=
  !s.isEmpty && s.any isDigit && s.all isNumeralChar && isFloat s

end SqlDialect.Text
