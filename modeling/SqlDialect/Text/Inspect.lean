import SqlDialect.Text.Number
/-!
# Text shown for inspection

`inspect` puts a text between double quotes, with an escape for the quote, for the backslash and for
each character that would not show.
-/

namespace SqlDialect.Text

/-- Characters that leave no mark of their own on a page: controls, format characters, separators
other than the space, and code points that no character has for good. -/
def isUnprintable (c : Char) : Bool :=
  let n := c.toNat
  n < 0x20 || (0x7F ≤ n && n < 0xA1) || n == 0xAD || n == 0x61C || n == 0x1680 || n == 0x180E ||
    (0x2000 ≤ n && n ≤ 0x200F) || (0x2028 ≤ n && n ≤ 0x202F) || (0x205F ≤ n && n ≤ 0x206F) ||
    n == 0x3000 || (0x300 ≤ n && n ≤ 0x36F) || (0xE000 ≤ n && n ≤ 0xF8FF) ||
    (0xFE00 ≤ n && n ≤ 0xFE0F) || n == 0xFEFF || (0xFFF0 ≤ n && n ≤ 0xFFFB) ||
    (0xE0000 ≤ n && n ≤ 0x10FFFF)

/-- A character between double quotes. -/
def inspectChar (c : Char) : List Char :=
  match c with
  | '"' => "\\\"".toList
  | '\\' => "\\\\".toList
  | '\n' => "\\n".toList
  | '\r' => "\\r".toList
  | '\t' => "\\t".toList
  | '\x00' => "\\0".toList
  | c =>
    if isUnprintable c then "\\u\x7b".toList ++ Nat.toDigits 16 c.toNat ++ ['\x7d'] else [c]

/-- A text between double quotes, with escapes. -/
def inspect (s : String) : String :=
  String.ofList ('"' :: s.toList.flatMap inspectChar ++ ['"'])

end SqlDialect.Text
