import SqlDialect.Text.Number
/-!
# Text between quotes

Each reader takes the characters after an opening quote and gives the text up to the closing quote
and what follows it, or nothing if there is no closing quote. Two closing quotes in a row stand for
one. What a backslash means depends on the kind of text: it may be a character like others, escape
the character after it, or begin a code.

`escapedText` and `unicodeText` write a text so that the reader for its kind reads it again.
-/

namespace SqlDialect.Sql

/-- The character that a letter after a backslash stands for. -/
def unescape (c : Char) : Char :=
  match c with
  | '0' => '\x00'
  | 'a' => '\x07'
  | 'b' => '\x08'
  | 'f' => '\x0c'
  | 'n' => '\n'
  | 'r' => '\r'
  | 't' => '\t'
  | 'Z' => '\x1a'
  | c => c

/-- The content of a string after its opening quote, and what follows its closing quote. -/
def stringBody (quote : Char) (backslash : Bool) : List Char → Option (List Char × List Char)
  | [] => none
  | [c] => if c = quote then some ([], []) else none
  | c :: d :: r =>
    if c = quote then
      if d = quote then (stringBody quote backslash r).map fun (s, rest) => (quote :: s, rest)
      else some ([], d :: r)
    else if c = '\\' ∧ backslash then
      (stringBody quote backslash r).map fun (s, rest) => (unescape d :: s, rest)
    else (stringBody quote backslash (d :: r)).map fun (s, rest) => (c :: s, rest)

/-! ### Characters by their codes -/

def charOfCode? (n : Nat) : Option Char := if n.isValidChar then some (Char.ofNat n) else none

/-- The character whose code is written with `width` hexadecimal digits, and what follows them. -/
def hexChar? (width : Nat) (s : List Char) : Option (Char × List Char) := do
  let ds := s.take width
  if ds.length < width then none
  let c ← charOfCode? (← Text.hexDigitsValue? ds)
  some (c, s.drop width)

/-- A character of one byte, of which only the low eight bits count. -/
def byteChar? (n : Nat) : Option Char := if n % 256 < 128 then charOfCode? (n % 256) else none

/-- A digit below eight. -/
def isOctal (c : Char) : Bool := '0' ≤ c && c ≤ '7'

/-- The character that a backslash and what follows it stand for, and the rest. -/
def escape? : List Char → Option (Char × List Char)
  | [] => none
  | 'b' :: r => some ('\x08', r)
  | 'f' :: r => some ('\x0c', r)
  | 'n' :: r => some ('\n', r)
  | 'r' :: r => some ('\r', r)
  | 't' :: r => some ('\t', r)
  | 'u' :: r => hexChar? 4 r
  | 'U' :: r => hexChar? 8 r
  | 'x' :: r =>
    match (r.take 2).takeWhile fun c => (Text.hexValue? c).isSome with
    | [] => some ('x', r)
    | ds => do
      let c ← byteChar? (← Text.hexDigitsValue? ds)
      some (c, r.drop ds.length)
  | c :: r =>
    if isOctal c then
      let ds := c :: (r.take 2).takeWhile isOctal
      (byteChar? (ds.foldl (fun n d => n * 8 + Text.digitValue d) 0)).map fun c =>
        (c, r.drop (ds.length - 1))
    else some (c, r)

/-- The content of a string in which a backslash begins a code, at most `fuel` characters. The
character of code zero is refused after a backslash. -/
def escapedWithin : (fuel : Nat) → List Char → Option (List Char × List Char)
  | 0, _ => none
  | _ + 1, [] => none
  | fuel + 1, '\'' :: '\'' :: r => (escapedWithin fuel r).map fun (s, rest) => ('\'' :: s, rest)
  | _ + 1, '\'' :: r => some ([], r)
  | fuel + 1, '\\' :: r => do
    let (c, r) ← escape? r
    if c = '\x00' then none
    let (s, rest) ← escapedWithin fuel r
    some (c :: s, rest)
  | fuel + 1, c :: r => (escapedWithin fuel r).map fun (s, rest) => (c :: s, rest)

/-- The content of a string in which a backslash begins a code. -/
def escapedBody (s : List Char) : Option (List Char × List Char) := escapedWithin (s.length + 1) s

/-- The content of a string in which a backslash begins four hexadecimal digits, or six after a plus
sign, at most `fuel` characters. -/
def unicodeWithin : (fuel : Nat) → List Char → Option (List Char × List Char)
  | 0, _ => none
  | _ + 1, [] => none
  | fuel + 1, '\'' :: '\'' :: r => (unicodeWithin fuel r).map fun (s, rest) => ('\'' :: s, rest)
  | _ + 1, '\'' :: r => some ([], r)
  | fuel + 1, '\\' :: '\\' :: r => (unicodeWithin fuel r).map fun (s, rest) => ('\\' :: s, rest)
  | fuel + 1, '\\' :: r => do
    let (c, r) ← match r with
      | '+' :: r => hexChar? 6 r
      | r => hexChar? 4 r
    let (s, rest) ← unicodeWithin fuel r
    some (c :: s, rest)
  | fuel + 1, c :: r => (unicodeWithin fuel r).map fun (s, rest) => (c :: s, rest)

/-- The content of a string in which a backslash begins hexadecimal digits. -/
def unicodeBody (s : List Char) : Option (List Char × List Char) := unicodeWithin (s.length + 1) s

/-! ### Writing -/

/-- A character of a string in which a backslash begins a code. -/
def escapedChar (c : Char) : List Char :=
  match c with
  | '\'' => "\\'".toList
  | '\\' => "\\\\".toList
  | '\n' => "\\n".toList
  | '\t' => "\\t".toList
  | '\r' => "\\r".toList
  | c => [c]

/-- A text as a string in which a backslash begins a code, without its quotes. -/
def escapedText (s : String) : String := String.ofList (s.toList.flatMap escapedChar)

/-- The last `width` hexadecimal digits of a number. -/
def hexDigits : (width : Nat) → Nat → List Char
  | 0, _ => []
  | width + 1, n => hexDigits width (n / 16) ++ [Text.hexDigit true (n % 16)]

/-- A character of a string in which a backslash begins hexadecimal digits. -/
def unicodeChar (c : Char) : List Char :=
  if c = '\'' then "''".toList
  else if c = '\\' then "\\\\".toList
  else if c.toNat < 128 then [c]
  else if c.toNat < 0x10000 then '\\' :: hexDigits 4 c.toNat
  else '\\' :: '+' :: hexDigits 6 c.toNat

/-- A text as a string in which a backslash begins hexadecimal digits, without its quotes. -/
def unicodeText (s : String) : String := String.ofList (s.toList.flatMap unicodeChar)

end SqlDialect.Sql
