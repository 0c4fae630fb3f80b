import SqlDialect.Text.Blank
import SqlDialect.Text.Number
/-!
# Identifiers and their quotes

A `Quoting` says which characters an engine puts around an identifier, which identifiers need them,
and whether a backslash escapes inside them. Inside quotes the closing character is written twice.

* `quote` puts an identifier between quotes, unless it stands between them already or needs none.
* `split` cuts a name at the dots outside quotes, and `quoteQualified` quotes each piece.
-/

namespace SqlDialect

/-- Which identifiers are quoted. -/
inductive Reserve
  /-- All of them. -/
  | always
  /-- These words, whatever the case of their letters, and all that are no plain words. -/
  | words (keywords : List String)

/-- An engine's rule for identifiers. -/
structure Quoting where
  opening : Char
  closing : Char
  reserve : Reserve
  /-- Inside quotes a backslash escapes the character after it. -/
  backslashEscapes : Bool

/-- A letter of a plain word. -/
def isWordStart (c : Char) : Bool :=
  ('a' ≤ c && c ≤ 'z') || ('A' ≤ c && c ≤ 'Z') || c == '_'

/-- A letter or digit of a plain word. -/
def isWordChar (c : Char) : Bool := isWordStart c || Text.isDigit c

/-- A word of letters, digits and underscores that begins with no digit. -/
def isPlainWord : List Char → Bool
  | [] => false
  | c :: s => isWordStart c && (c :: s).all isWordChar

namespace Quoting

def needsQuoting (q : Quoting) (s : List Char) : Bool :=
  match q.reserve with
  | .always => true
  | .words keywords => !isPlainWord s || keywords.any fun w => Text.eqIgnoreCase w.toList s

/-- Whether the closing character occurs only in pairs, counted from the left. -/
def pairsOnly (closing : Char) : List Char → Bool
  | [] => true
  | [c] => c != closing
  | c :: d :: s =>
    if c = closing then d == closing && pairsOnly closing s else pairsOnly closing (d :: s)

def isQuoted (q : Quoting) (s : List Char) : Bool :=
  match s with
  | [] => false
  | c :: r => c == q.opening && r.getLast? == some q.closing && pairsOnly q.closing r.dropLast

/-- One character between quotes. -/
def escapeChar (q : Quoting) (c : Char) : List Char :=
  if c = q.closing then [c, c]
  else if c = '\\' ∧ q.backslashEscapes then ['\\', '\\']
  else [c]

/-- Any text between quotes. -/
def wrap (q : Quoting) (s : List Char) : List Char :=
  q.opening :: s.flatMap q.escapeChar ++ [q.closing]

def quoteChars (q : Quoting) (s : List Char) : List Char :=
  if q.isQuoted s || !q.needsQuoting s then s else q.wrap s

/-- The pieces of a text after a character has been put in front of it. -/
def extend (c : Char) : List (List Char) → List (List Char)
  | [] => [[c]]
  | piece :: pieces => (c :: piece) :: pieces

mutual

/-- The pieces between the dots outside quotes, from a place outside quotes. -/
def split (q : Quoting) : List Char → List (List Char)
  | [] => [[]]
  | c :: s =>
    if c = q.opening then extend c (splitInside q s)
    else if c = '.' then [] :: split q s
    else extend c (split q s)

/-- The same from a place inside quotes. -/
def splitInside (q : Quoting) : List Char → List (List Char)
  | [] => [[]]
  | [c] => [[c]]
  | c :: d :: s =>
    if c = '\\' ∧ q.backslashEscapes then extend c (extend d (splitInside q s))
    else if c = q.closing then
      if d = q.closing then extend c (extend d (splitInside q s)) else extend c (split q (d :: s))
    else extend c (splitInside q (d :: s))

end

/-- A dotted name as it is written: each piece quoted, unless the whole stands between quotes. -/
def quoteQualifiedChars (q : Quoting) (s : List Char) : List Char :=
  if q.isQuoted s then s else ['.'].intercalate ((q.split s).map q.quoteChars)

def quote (q : Quoting) (s : String) : String := String.ofList (q.quoteChars s.toList)

def quoteQualified (q : Quoting) (s : String) : String :=
  String.ofList (q.quoteQualifiedChars s.toList)

/-- Every identifier between double quotes. -/
def ansi : Quoting := ⟨'"', '"', .always, false⟩

end Quoting

end SqlDialect
