import SqlDialect.Text.Number
/-!
# Tokens of a statement

A statement is read as a list of tokens, without blanks and comments. A token is shown as it would
be written again, strings without their escapes.
-/

namespace SqlDialect.Sql

inductive Token
  /-- An identifier or keyword, with the quote it stands in. -/
  | word (value : String) (quote : Option Char)
  /-- A number, and whether an `L` follows it. -/
  | number (digits : String) (long : Bool)
  /-- Text between single quotes. -/
  | string (value : String)
  /-- Text between quotes after a mark such as `N` or `X`. -/
  | marked (mark : String) (quote : Char) (value : String)
  /-- Text between two equal tags, each between dollar signs. -/
  | dollar (tag value : String)
  /-- A question mark or dollar sign with what belongs to it. -/
  | placeholder (value : String)
  /-- Punctuation or an operator. -/
  | symbol (value : String)
  /-- A character that begins nothing. -/
  | other (c : Char)
  deriving DecidableEq, Repr

namespace Token

def text : Token → String
  | word value none => value
  | word value (some q) => String.singleton q ++ value ++ String.singleton q
  | number digits long => if long then digits ++ "L" else digits
  | string value => "'" ++ value ++ "'"
  | marked mark quote value => mark ++ String.singleton quote ++ value ++ String.singleton quote
  | dollar tag value => "$" ++ tag ++ "$" ++ value ++ "$" ++ tag ++ "$"
  | placeholder value => value
  | symbol value => value
  | other c => String.singleton c

/-- The word in capitals, if the token is a word without quotes; else empty. -/
def keyword : Token → String
  | word value none => String.ofList (value.toList.map Text.upperAscii)
  | _ => ""

end Token

end SqlDialect.Sql
