import SqlDialect.Cell.Basic
import SqlDialect.Error
import SqlDialect.Text.Blank
import SqlDialect.Text.Utf8
/-!
# Statement templates

A template is a statement with places for parameters. A question mark is a place, wherever it
stands; two of them are one question mark of the statement, and `?fields` is a place that no
parameter fills. Parameters fill the places from left to right. A template that is given more
parameters than it has places has failed, and stays so.

`escapeHoles` doubles the question marks of a text, so that the template made from it has no place
and stands for that text.
-/

namespace SqlDialect.ClickHouse

inductive Piece
  | char (c : Char)
  /-- A place for a parameter. -/
  | hole
  /-- A place for the names of fields. -/
  | fields
  deriving DecidableEq

/-- A statement with places for parameters. -/
inductive Template
  | pieces (ps : List Piece)
  | failed (reason : String)

def pieces : List Char → List Piece
  | [] => []
  | '?' :: '?' :: r => .char '?' :: pieces r
  | '?' :: 'f' :: 'i' :: 'e' :: 'l' :: 'd' :: 's' :: r => .fields :: pieces r
  | '?' :: r => .hole :: pieces r
  | c :: r => .char c :: pieces r

/-- The text with its question marks doubled. -/
def escapeHoles (s : List Char) : List Char := s.flatMap fun c => if c = '?' then ['?', '?'] else [c]

/-- `escapeHoles` on strings. -/
def escapePlaceholders (sql : String) : String := String.ofList (escapeHoles sql.toList)

/-- The pieces with the first place filled, if there is one. -/
def fill (s : List Char) : List Piece → Option (List Piece)
  | [] => none
  | .hole :: ps => some (s.map .char ++ ps)
  | p :: ps => (fill s ps).map (p :: ·)

def Piece.chars : Piece → List Char
  | char c => [c]
  | hole => ['?']
  | fields => "?fields".toList

namespace Template

def ofText (sql : String) : Template := .pieces (ClickHouse.pieces sql.toList)

/-- The template with one more place filled. -/
def bind (s : List Char) : Template → Template
  | failed reason => failed reason
  | pieces ps =>
    match fill s ps with
    | some ps => .pieces ps
    | none => failed "unexpected bind(), all arguments are already bound"

/-- A template as it is shown, with a question mark for each place that is left. -/
def text : Template → String
  | pieces ps => String.ofList (ps.flatMap Piece.chars)
  | failed reason => "invalid SQL: " ++ reason

/-- The first place that is left. -/
def firstHole? (ps : List Piece) : Option Piece :=
  ps.find? fun p => p = .hole ∨ p = .fields

/-- The statement of a template without places, or why it is none. -/
def statement? : Template → Except String String
  | failed reason => .error reason
  | pieces ps =>
    match firstHole? ps with
    | none => .ok (String.ofList (ps.flatMap Piece.chars))
    | some .fields => .error "unbound query argument ?fields"
    | some _ => .error "unbound query argument"

end Template

/-! ### Parameters -/

/-- A character of a parameter between quotes: a backslash stands before a backslash, a quote, a
backquote, a tab and a newline. -/
def escapeParamChar (c : Char) : List Char :=
  if c = '\\' ∨ c = '\'' ∨ c = '\x60' ∨ c = '\t' ∨ c = '\n' then ['\\', c] else [c]

def quoteParam (s : List Char) : List Char := '\'' :: s.flatMap escapeParamChar ++ ['\'']

/-- The text that a cell has between quotes as a parameter, if it stands between quotes. -/
def paramText? : Cell → Option (List Char)
  | .decimal s | .string s => some s.toList
  | .bytes data => some (Text.Utf8.decodeLossy data)
  | .uuid u => some u.text.toList
  | .date d => some d.text.toList
  | .time t => some t.text.toList
  | .dateTime t | .dateTimeUtc t => some t.text.toList
  | .json j => some j.compact.toList
  | _ => none

/-- What a cell is in the place of a parameter; an array is nothing. -/
def param? : Cell → Option (List Char)
  | .array _ => none
  | c =>
    match paramText? c with
    | some s => some (quoteParam s)
    | none => some c.text.toList

/-- A template with its places filled by these parameters, in order. -/
def bindParams (t : Template) : List Cell → Except DbError Template
  | [] => .ok t
  | c :: cs =>
    match param? c with
    | some s => bindParams (t.bind s) cs
    | none => .error .arrayParameter

/-- The template of a statement with its parameters. A statement without parameters has no places,
whatever question marks it holds. -/
def prepare (sql : String) (params : List Cell) : Except DbError Template :=
  if params.isEmpty then .ok (.ofText (escapePlaceholders sql))
  else bindParams (.ofText sql) params

end SqlDialect.ClickHouse
