import SqlDialect.Calendar.Reader
import SqlDialect.Toml.Document
/-!
# Reading TOML

`read?` gives the document that a text is, as a JSON value. Strings of all four kinds, integers in
all four bases, truth values, arrays and inline tables are read for what they are. Fractions and
dates are read and stand for no JSON value.
-/

namespace SqlDialect.Toml

/-- Takes something from the front of a text. -/
abbrev Reader (α : Type) := List Char → Option (α × List Char)

/-! ### Blanks, line ends and comments -/

/-- Without the spaces and tabs in front. -/
def skipSpace (s : List Char) : List Char := s.dropWhile fun c => c == ' ' || c == '\t'

/-- A character that a comment or a string on one line may hold. -/
def isPlain (c : Char) : Bool := c == '\t' || (0x20 ≤ c.toNat && c.toNat != 0x7F)

/-- What follows a line end. -/
def newline? : List Char → Option (List Char)
  | '\n' :: r => some r
  | '\r' :: '\n' :: r => some r
  | _ => none

/-- What follows blanks, an optional comment and a line end; at the end of the text nothing. -/
def lineEnd? (s : List Char) : Option (List Char) :=
  let s := skipSpace s
  let s := if s.head? = some '#' then s.dropWhile isPlain else s
  if s.isEmpty then some [] else newline? s

/-- Without blanks, line ends and comments in front. -/
def skipLines : Nat → List Char → List Char
  | 0, s => s
  | fuel + 1, s =>
    let s := skipSpace s
    match s with
    | '#' :: _ | '\n' :: _ | '\r' :: _ =>
      match lineEnd? s with
      | some rest => skipLines fuel rest
      | none => s
    | s => s

/-! ### Strings -/

/-- The character that a run of hexadecimal digits stands for. -/
def scalar? (ds : List Char) : Option Char := do
  let n ← Text.hexDigitsValue? ds
  if n < 0xD800 ∨ (0xE000 ≤ n ∧ n < 0x110000) then some (Char.ofNat n) else none

def escape? : Reader Char
  | 'b' :: r => some ('\x08', r)
  | 't' :: r => some ('\t', r)
  | 'n' :: r => some ('\n', r)
  | 'f' :: r => some ('\x0c', r)
  | 'r' :: r => some ('\r', r)
  | '"' :: r => some ('"', r)
  | '\\' :: r => some ('\\', r)
  | 'u' :: r => if r.length < 4 then none else (scalar? (r.take 4)).map fun c => (c, r.drop 4)
  | 'U' :: r => if r.length < 8 then none else (scalar? (r.take 8)).map fun c => (c, r.drop 8)
  | _ => none

/-- The content of a string on one line, and what follows its closing quote. -/
def lineString (quote : Char) : Nat → Reader (List Char)
  | 0, _ => none
  | _, [] => none
  | fuel + 1, c :: r =>
    if c = quote then some ([], r)
    else if c = '\\' ∧ quote = '"' then do
      let (d, r) ← escape? r
      let (s, rest) ← lineString quote fuel r
      some (d :: s, rest)
    else if isPlain c then (lineString quote fuel r).map fun (s, rest) => (c :: s, rest)
    else none

/-- The content of a string over several lines, and what follows its three closing quotes, of which
up to two more may stand before them. -/
def textString (quote : Char) : Nat → Reader (List Char)
  | 0, _ => none
  | fuel + 1, s =>
    let quotes := (s.takeWhile (· == quote)).length
    if 3 ≤ quotes then
      if quotes ≤ 5 then some (List.replicate (quotes - 3) quote, s.drop quotes) else none
    else
      match s with
      | [] => none
      | c :: r =>
        if c = '\\' ∧ quote = '"' then
          match newline? (skipSpace r) with
          | some rest =>
            textString quote fuel
              (rest.dropWhile fun c => c == ' ' || c == '\t' || c == '\n' || c == '\r')
          | none => do
            let (d, r) ← escape? r
            let (s, rest) ← textString quote fuel r
            some (d :: s, rest)
        else
          match newline? (c :: r) with
          | some rest => (textString quote fuel rest).map fun (s, rest) => ('\n' :: s, rest)
          | none =>
            if isPlain c then (textString quote fuel r).map fun (s, rest) => (c :: s, rest) else none

def string? : Reader String
  | '"' :: '"' :: '"' :: r => text '"' r
  | '\'' :: '\'' :: '\'' :: r => text '\'' r
  | '"' :: r => (lineString '"' (r.length + 1) r).map fun (s, rest) => (String.ofList s, rest)
  | '\'' :: r => (lineString '\'' (r.length + 1) r).map fun (s, rest) => (String.ofList s, rest)
  | _ => none
where
  /-- A string over several lines; a line end right after the opening quotes does not count. -/
  text (quote : Char) (r : List Char) : Option (String × List Char) :=
    let r := (newline? r).getD r
    (textString quote (r.length + 1) r).map fun (s, rest) => (String.ofList s, rest)

/-! ### Keys -/

/-- A character of a key without quotes. -/
def isKeyChar (c : Char) : Bool := c.isAlphanum || c == '_' || c == '-'

/-- A key without dots. -/
def simpleKey? (s : List Char) : Option (String × List Char) :=
  match s with
  | '"' :: r => (lineString '"' (r.length + 1) r).map fun (k, rest) => (String.ofList k, rest)
  | '\'' :: r => (lineString '\'' (r.length + 1) r).map fun (k, rest) => (String.ofList k, rest)
  | s =>
    let k := s.takeWhile isKeyChar
    if k.isEmpty then none else some (String.ofList k, s.dropWhile isKeyChar)

/-- A dotted key, and the blanks after it. -/
def key? : Nat → Reader (List String)
  | 0, _ => none
  | fuel + 1, s => do
    let (k, s) ← simpleKey? (skipSpace s)
    match skipSpace s with
    | '.' :: r => do
      let (ks, rest) ← key? fuel r
      some (k :: ks, rest)
    | rest => some ([k], rest)

/-! ### Values -/

/-- Digits with single underscores between them. -/
def digits? (isDigit : Char → Bool) (s : List Char) : Option (List Char) :=
  let ds := s.filter (· != '_')
  let parted := !s.isEmpty && s.head? != some '_' && s.getLast? != some '_' &&
    !(List.zip s (s.drop 1)).contains ('_', '_')
  if parted && ds.all isDigit then some ds else none

/-- The number that digits spell in a base. -/
def inBase? (base : Nat) (s : List Char) : Option Int := do
  let isDigit (c : Char) := (Text.hexValue? c).any (· < base)
  let ds ← digits? isDigit s
  some (ds.foldl (fun n c => n * base + ((Text.hexValue? c).getD 0 : Nat)) (0 : Nat) : Nat)

/-- An integer in decimal digits, without superfluous zeros. -/
def decimal? (s : List Char) : Option Int :=
  let (negative, ds) := match s with
    | '-' :: r => (true, r)
    | '+' :: r => (false, r)
    | r => (false, r)
  if ds.head? = some '0' ∧ 1 < ds.length then none
  else (inBase? 10 ds).map fun n => if negative then -n else n

/-- An integer of 64 bits. -/
def integer? (s : List Char) : Option Json :=
  let n := match s with
    | '0' :: 'x' :: r => inBase? 16 r
    | '0' :: 'o' :: r => inBase? 8 r
    | '0' :: 'b' :: r => inBase? 2 r
    | s => decimal? s
  n.bind fun n => if -0x8000000000000000 ≤ n ∧ n < 0x8000000000000000 then some (.int n) else none

def isFraction (s : List Char) : Bool :=
  let body := Text.dropSign s
  if body = "inf".toList ∨ body = "nan".toList then true
  else
    let whole := body.takeWhile fun c => c != '.' && c != 'e' && c != 'E'
    let rest := body.drop whole.length
    let places := match rest with
      | '.' :: r => r.takeWhile fun c => c != 'e' && c != 'E'
      | _ => []
    let exponent := (rest.drop 1).drop places.length
    let isPart (s : List Char) := (digits? Text.isDigit s).isSome
    let hasExponent := rest.head? != some '.' || !exponent.isEmpty
    let power := if rest.head? = some '.' then exponent.drop 1 else rest.drop 1
    (decimal? whole).isSome && !rest.isEmpty && (rest.head? != some '.' || isPart places) &&
      (!hasExponent || isPart (Text.dropSign power))

/-- Exactly `count` digits. -/
def number? (count : Nat) (s : List Char) : Option (Nat × List Char) :=
  let ds := s.take count
  if ds.length = count ∧ ds.all Text.isDigit then some (Text.digitsValue ds, s.drop count) else none

/-- A date: four, two and two digits with hyphens between them. -/
def date? (s : List Char) : Option (Calendar.Date × List Char) := do
  let (year, s) ← number? 4 s
  let s ← Calendar.expect? '-' s
  let (month, s) ← number? 2 s
  let s ← Calendar.expect? '-' s
  let (day, s) ← number? 2 s
  let date ← Calendar.Date.of? year month day
  some (date, s)

/-- A time: three times two digits with colons between them, and an optional fraction. -/
def time? (s : List Char) : Option (Calendar.Time × List Char) := do
  let (hour, s) ← number? 2 s
  let s ← Calendar.expect? ':' s
  let (minute, s) ← number? 2 s
  let s ← Calendar.expect? ':' s
  let (second, s) ← number? 2 s
  let (nanos, s) ← Calendar.readFraction? s
  let time ← Calendar.timeOf? hour minute second nanos
  some (time, s)

/-- What follows an offset from universal time; without an offset the whole text. -/
def afterOffset (s : List Char) : List Char :=
  match s with
  | c :: r =>
    if c = 'Z' ∨ c = 'z' then r
    else if c = '+' ∨ c = '-' then
      -- hours and minutes of an offset have the limits of a time of day
      match time? (r.take 5 ++ ":00".toList) with
      | some (_, []) => r.drop 5
      | _ => s
    else s
  | [] => []

/-- What follows a date, a time, or a date with a time and perhaps an offset. -/
def afterMoment? (s : List Char) : Option (List Char) :=
  match date? s with
  | none => (time? s).map (·.2)
  | some (_, rest) =>
    match rest with
    | c :: r =>
      if c = 'T' ∨ c = 't' ∨ c = ' ' then
        match time? r with
        | some (_, r) => some (afterOffset r)
        | none => some rest
      else some rest
    | [] => some []

/-- A value without quotes and brackets. -/
def word? (s : List Char) : Option (Json × List Char) :=
  let isPart (c : Char) := c.isAlphanum || ['_', '-', '+', '.'].contains c
  let w := s.takeWhile isPart
  let rest := s.dropWhile isPart
  match afterMoment? s with
  | some rest => some (.array [], rest)
  | none =>
    if w = "true".toList then some (.bool true, rest)
    else if w = "false".toList then some (.bool false, rest)
    else
      match integer? w with
      | some j => some (j, rest)
      | none => if isFraction w then some (.array [], rest) else none

/-- The values of an array after its opening bracket. -/
def items? (value : Reader Json) : Nat → Reader (List Json)
  | 0, _ => none
  | fuel + 1, s =>
    let s := skipLines s.length s
    match s with
    | ']' :: r => some ([], r)
    | s => do
      let (j, s) ← value s
      match skipLines s.length s with
      | ',' :: r => do
        let (js, rest) ← items? value fuel r
        some (j :: js, rest)
      | ']' :: r => some ([j], r)
      | _ => none

/-- The members of an inline table, one at least. -/
def inline? (value : Reader Json) : Nat → Members → Reader Members
  | 0, _, _ => none
  | fuel + 1, ms, s => do
    let (path, s) ← key? (s.length + 1) s
    match s with
    | '=' :: r => do
      let (j, s) ← value (skipSpace r)
      let ms ← Members.put (.value j) path ms
      match skipSpace s with
      | ',' :: r => inline? value fuel ms r
      | '\x7d' :: r => some (ms, r)
      | _ => none
    | _ => none

/-- A value in which arrays and inline tables nest less than `fuel` deep. -/
def value? : Nat → Reader Json
  | 0, _ => none
  | fuel + 1, s =>
    match s with
    | '"' :: _ | '\'' :: _ => (string? s).map fun (s, rest) => (.string s, rest)
    | '[' :: r => (items? (value? fuel) (r.length + 1) r).map fun (js, rest) => (.array js, rest)
    | '\x7b' :: r =>
      match skipSpace r with
      | '\x7d' :: rest => some (.object [], rest)
      | r => (inline? (value? fuel) (r.length + 1) [] r).map fun (ms, rest) =>
        (.object (membersToJson ms), rest)
    | s => word? s

/-! ### Documents -/

/-- A header: a key between brackets. -/
def header? (several : Bool) (s : List Char) (d : Document) : Option (Document × List Char) := do
  let (path, s) ← key? (s.length + 1) s
  let rest ←
    match several, s with
    | true, ']' :: ']' :: r => some r
    | false, ']' :: r => some r
    | _, _ => none
  let d ← d.open_ several path
  some (d, rest)

/-- A key, an equality sign and a value. -/
def setting? (s : List Char) (d : Document) : Option (Document × List Char) := do
  let (path, s) ← key? (s.length + 1) s
  match s with
  | '=' :: r => do
    let r := skipSpace r
    let (j, rest) ← value? (r.length + 1) r
    let d ← d.put path j
    some (d, rest)
  | _ => none

/-- The lines of a document, at most `fuel` of them. -/
def lines? : Nat → List Char → Document → Option Document
  | 0, _, _ => none
  | fuel + 1, s, d =>
    let s := skipLines s.length s
    if s.isEmpty then some d
    else do
      let (d, s) ←
        match s with
        | '[' :: '[' :: r => header? true r d
        | '[' :: r => header? false r d
        | s => setting? s d
      let rest ← lineEnd? s
      lines? fuel rest d

/-- The document that a text is; a byte order mark in front does not count. -/
def read? (s : String) : Option Json :=
  let s := match s.toList with
    | '\ufeff' :: r => r
    | r => r
  (lines? (s.length + 1) s {}).map fun d => .object (membersToJson d.members)

end SqlDialect.Toml
