import SqlDialect.Sql.Quoted
import SqlDialect.Sql.Token
import SqlDialect.Text.Blank
import SqlDialect.Text.Letter
import SqlDialect.Text.Number
/-!
# Reading tokens

`tokens` cuts a statement into tokens, taking the longest symbol at each place, and drops blanks and
comments. What differs between engines is in a `Grammar`: the letters of a word, whether a backslash
escapes inside strings, and the features that the readers of expressions and statements ask for.
-/

namespace SqlDialect.Sql

/-- What an engine's SQL allows. -/
structure Grammar where
  /-- A first character of a word. -/
  wordStart : Char → Bool
  /-- A further character of a word. -/
  wordChar : Char → Bool
  /-- A backslash escapes the character after it in a string. -/
  backslashEscapes : Bool
  /-- Forms of many engines are known: `B'…'`, `R'…'`, `E'…'` and `U&'…'` are strings of their own, `//` divides
  integers, `<<`, `>>` and `^@` are operators, a map may stand between braces, `FROM` may be left out
  after `DELETE`, and so on. -/
  extended : Bool
  /-- `Array` takes its element type in parentheses, an interval needs a unit, the columns of a view
  have types, and `TABLE` may follow `DESCRIBE`. -/
  columnar : Bool
  /-- `PRIOR` is an operator before its operand, as it is where a hierarchy of rows is described. -/
  hierarchical : Bool := false

/-- The grammar for engines without one of their own. -/
def Grammar.generic : Grammar where
  wordStart c := Text.isLetter c || c == '_' || c == '#' || c == '@'
  wordChar c := Text.isLetter c || Text.isDigit c || c == '@' || c == '$' || c == '#' || c == '_'
  backslashEscapes := false
  extended := true
  columnar := false

def Grammar.clickHouse : Grammar where
  wordStart c := c.isAlpha || c == '_'
  wordChar c := c.isAlpha || c == '_' || Text.isDigit c
  backslashEscapes := true
  extended := false
  columnar := true

/-- Punctuation and operators; one that begins another comes after it. -/
def symbols : List (List Char) :=
  ["->>", "->", "-", "/", "+", "*", "%", "||/", "||", "|/", "|", "=>", "==", "=", "!=", "!!",
    "!~~*", "!~~", "!~*", "!~", "!", "<=>", "<=", "<>", "<<", "<@", "<", ">=", ">>", ">", "::",
    ":=", ":", ";", "\\", "[", "]", "(", ")", ",", "&&", "&", "^@", "^", "\x7b", "\x7d", "~~*",
    "~~", "~*", "~", "@>", "@?", "@@", "@", "#-", "#>>", "#>", "#"].map String.toList

/-- The first symbol that a text begins with, and what follows it. -/
def symbol? (s : List Char) : Option (List Char × List Char) :=
  symbols.findSome? fun p => (Text.stripPrefix? p s).map fun rest => (p, rest)

/-! ### Comments and tagged text -/

/-- What follows a comment between `/*` and `*/`; comments nest. -/
def skipComment : (depth : Nat) → (last : Char) → List Char → Option (List Char)
  | _, _, [] => none
  | depth, last, c :: r =>
    if last = '/' ∧ c = '*' then skipComment (depth + 1) c r
    else if last = '*' ∧ c = '/' then
      if depth ≤ 1 then some r else skipComment (depth - 1) c r
    else skipComment depth c r

/-- What is left of a text that begins with `tag`, or what has been taken of the text up to the first
character that differs from the tag, and what is left after it. -/
def takeTag : (tag : List Char) → List Char → Option (List Char ⊕ (List Char × List Char))
  | [], s => some (.inl s)
  | _ :: _, [] => none
  | t :: tag, c :: s =>
    if c = t then
      (takeTag tag s).map fun r =>
        match r with
        | .inl rest => .inl rest
        | .inr (taken, rest) => .inr (c :: taken, rest)
    else some (.inr ([c], s))

/-- The text up to two dollar signs in a row, and what follows them. -/
def dollarBody : List Char → Option (List Char × List Char)
  | [] => none
  | '$' :: '$' :: r => some ([], r)
  | c :: r => (dollarBody r).map fun (s, rest) => (c :: s, rest)

/-- The text up to a tag between dollar signs, and what follows it, at most `fuel` dollar signs. What
has been compared with the tag is not compared again. -/
def taggedBody (tag : List Char) : (fuel : Nat) → List Char → Option (List Char × List Char)
  | 0, _ => none
  | fuel + 1, s => do
    let start := s.takeWhile (· != '$')
    match s.dropWhile (· != '$') with
    | [] => none
    | dollar :: r =>
      match ← takeTag tag r with
      | .inr (taken, rest) =>
        let (s, rest) ← taggedBody tag fuel rest
        some (start ++ dollar :: taken ++ s, rest)
      | .inl ('$' :: rest) => some (start, rest)
      | .inl rest =>
        let (s, rest) ← taggedBody tag fuel rest
        some (start ++ dollar :: tag ++ s, rest)

/-! ### Tokens -/

/-- What a dollar sign begins: a string up to the same tag again, or a placeholder. -/
def dollarToken (r : List Char) : Option (Token × List Char) :=
  let isPart (c : Char) := Text.isLetter c || Text.isDigit c || c == '_'
  let tag := r.takeWhile isPart
  match r.dropWhile isPart with
  | '$' :: body =>
    (if tag.isEmpty then dollarBody body else taggedBody tag (body.length + 1) body).map
      fun (s, rest) => (.dollar (String.ofList tag) (String.ofList s), rest)
  | rest => some (.placeholder (String.ofList ('$' :: tag)), rest)

/-- The exponent of a number, if digits follow the letter. -/
def exponentPart (s : List Char) : List Char × List Char :=
  match s with
  | e :: r =>
    if e = 'e' ∨ e = 'E' then
      let (sign, r) := match r with
        | '+' :: r => (['+'], r)
        | '-' :: r => (['-'], r)
        | r => ([], r)
      let ds := r.takeWhile Text.isDigit
      if ds.isEmpty then ([], s) else (e :: sign ++ ds, r.dropWhile Text.isDigit)
    else ([], s)
  | [] => ([], [])

/-- A number, or a period alone. -/
def numberToken (s : List Char) : Token × List Char :=
  let whole := s.takeWhile Text.isDigit
  let s := s.dropWhile Text.isDigit
  match whole, s with
  | ['0'], 'x' :: r =>
    let isHex (c : Char) := (Text.hexValue? c).isSome
    (.marked "X" '\'' (String.ofList (r.takeWhile isHex)), r.dropWhile isHex)
  | _, _ =>
    let (places, s) := match s with
      | '.' :: r => ('.' :: r.takeWhile Text.isDigit, r.dropWhile Text.isDigit)
      | s => ([], s)
    let digits := whole ++ places
    if digits = ['.'] then (.symbol ".", s)
    else
      let (exponent, s) := exponentPart s
      let text := String.ofList (digits ++ exponent)
      match s with
      | 'L' :: r => (.number text true, r)
      | s => (.number text false, s)

/-- A word without quotes that begins with the characters `start`. -/
def wordToken (g : Grammar) (start rest : List Char) : Token × List Char :=
  (.word (String.ofList (start ++ rest.takeWhile g.wordChar)) none, rest.dropWhile g.wordChar)

/-- A string after a letter, if the grammar knows it; else a word. -/
def letterToken (g : Grammar) (c : Char) (r : List Char) : Option (Token × List Char) :=
  let marked (mark : String) (quote : Char) (body : Option (List Char × List Char)) :
      Option (Token × List Char) :=
    body.map fun (s, rest) => (.marked mark quote (String.ofList s), rest)
  match Text.upperAscii c, r with
  | 'N', '\'' :: r => marked "N" '\'' (stringBody '\'' true r)
  | 'X', '\'' :: r => marked "X" '\'' (stringBody '\'' true r)
  | 'E', '\'' :: r => marked "E" '\'' (escapedBody r)
  | 'U', '&' :: '\'' :: body =>
    if g.extended then marked "U&" '\'' (unicodeBody body) else some (wordToken g [c] r)
  | upper, q :: body =>
    if g.extended ∧ (upper = 'B' ∨ upper = 'R') ∧ (q = '\'' ∨ q = '"') then
      marked (String.singleton upper) q (stringBody q false body)
    else some (wordToken g [c] r)
  | _, [] => some (wordToken g [c] r)

/-- The token at the front of a text, if there is one, and what follows it. A blank or a comment
gives no token; `none` is a text that cannot be cut into tokens. -/
def next? (g : Grammar) : List Char → Option (Option Token × List Char)
  | [] => none
  | c :: r =>
    if Text.isBlank c then some (none, r)
    else if c = '-' ∧ r.head? = some '-' then some (none, (r.dropWhile (· != '\n')).drop 1)
    else if c = '/' ∧ r.head? = some '*' then
      (skipComment 1 ' ' (r.drop 1)).map fun rest => (none, rest)
    else if c = '/' ∧ r.head? = some '/' ∧ g.extended then some (some (.symbol "//"), r.drop 1)
    else if c = '\'' then
      (stringBody '\'' g.backslashEscapes r).map fun (s, rest) =>
        (some (.string (String.ofList s)), rest)
    else if c = '"' ∨ c = '\x60' then
      (stringBody c false r).map fun (s, rest) => (some (.word (String.ofList s) (some c)), rest)
    else if Text.isDigit c ∨ c = '.' then
      let (t, rest) := numberToken (c :: r)
      some (some t, rest)
    else if c = '?' then
      let ds := r.takeWhile Text.isDigit
      some (some (.placeholder (String.ofList ('?' :: ds))), r.dropWhile Text.isDigit)
    else if c = '$' ∧ ¬ g.wordStart c then
      (dollarToken r).map fun (t, rest) => (some t, rest)
    else if c.isAlpha then (letterToken g c r).map fun (t, rest) => (some t, rest)
    else if (c = '@' ∨ c = '#') ∧ g.wordStart c then
      match symbol? (c :: r), r with
      | some ([_], _), d :: rest =>
        if d = ' ' then some (some (.symbol (String.singleton c)), r)
        else
          let (t, rest) := wordToken g [c, d] rest
          some (some t, rest)
      | some (['@', '@'], d :: rest), _ =>
        if d = ' ' then some (some (.symbol "@@"), d :: rest)
        else
          let (t, rest) := wordToken g ['@', '@', d] rest
          some (some t, rest)
      | some (p, rest), _ => some (some (.symbol (String.ofList p)), rest)
      | none, _ => none
    else if g.wordStart c then
      let (t, rest) := wordToken g [c] r
      some (some t, rest)
    else
      match symbol? (c :: r) with
      | some (p, rest) =>
        some (some (.symbol (if p = "!=".toList then "<>" else String.ofList p)), rest)
      | none => some (some (.other c), r)

/-- The tokens of a text, at most `fuel` of them and of the gaps between them. -/
def tokensWithin (g : Grammar) : (fuel : Nat) → List Char → Option (List Token)
  | _, [] => some []
  | 0, _ => none
  | fuel + 1, s => do
    let (t, rest) ← next? g s
    let ts ← tokensWithin g fuel rest
    some (match t with
      | some t => t :: ts
      | none => ts)

def tokens (g : Grammar) (s : String) : Option (List Token) :=
  let s := s.toList
  tokensWithin g s.length s

end SqlDialect.Sql
