/-!
# Blank characters and lines

`isBlank` is Unicode's property `White_Space`. `trim` drops blank characters at both ends of a
text, and `lines` cuts a text after each line feed, dropping a carriage return that stands right
before it.
-/

namespace SqlDialect.Text

/-- The twenty-five characters with the property `White_Space`. -/
def isBlank (c : Char) : Bool :=
  let n := c.toNat
  (0x09 ≤ n && n ≤ 0x0D) || n == 0x20 || n == 0x85 || n == 0xA0 || n == 0x1680 ||
    (0x2000 ≤ n && n ≤ 0x200A) || n == 0x2028 || n == 0x2029 || n == 0x202F || n == 0x205F ||
    n == 0x3000

def trimStart (s : List Char) : List Char := s.dropWhile isBlank

def trimEnd (s : List Char) : List Char := (s.reverse.dropWhile isBlank).reverse

/-- Without the blank characters at both ends. -/
def trimChars (s : List Char) : List Char := trimEnd (trimStart s)

/-- `trimChars` on strings. -/
def trim (s : String) : String := String.ofList (trimChars s.toList)

/-- The pieces between the occurrences of `d`, at least one. -/
def splitOn (d : Char) : List Char → List (List Char)
  | [] => [[]]
  | c :: r =>
    if c = d then [] :: splitOn d r
    else
      match splitOn d r with
      | [] => [[c]]
      | piece :: pieces => (c :: piece) :: pieces

theorem splitOn_ne_nil (d : Char) (s : List Char) : splitOn d s ≠ [] := by
  cases s with
  | nil => simp [splitOn]
  | cons c r =>
    simp only [splitOn]
    split
    · simp
    · split <;> simp

/-- Without one `c` at the end. -/
def dropLast? (c : Char) (s : List Char) : List Char :=
  if s.getLast? = some c then s.dropLast else s

/-- The lines of a text. A line feed ends a line, so no line follows the last one, and a carriage
return right before it belongs to the line end. -/
def lines (s : List Char) : List (List Char) :=
  let pieces := splitOn '\n' s
  let ended := pieces.dropLast.map (dropLast? '\r')
  match pieces.getLast? with
  | some [] | none => ended
  | some rest => ended ++ [rest]

/-- `true` if `p` is how `s` begins; then also what follows it. -/
def stripPrefix? : (p s : List Char) → Option (List Char)
  | [], s => some s
  | _ :: _, [] => none
  | a :: p, c :: s => if a = c then stripPrefix? p s else none

/-- What stands before `p` at the end of `s`, if `s` ends so. -/
def stripSuffix? (p s : List Char) : Option (List Char) :=
  (stripPrefix? p.reverse s.reverse).map List.reverse

theorem stripPrefix?_eq_some_iff {p s r : List Char} :
    stripPrefix? p s = some r ↔ s = p ++ r := by
  induction p generalizing s with
  | nil => simp [stripPrefix?, eq_comm]
  | cons a p ih =>
    cases s with
    | nil => simp [stripPrefix?]
    | cons c s =>
      simp only [stripPrefix?, List.cons_append, List.cons.injEq]
      split
      · rename_i h; simp [ih, h]
      · rename_i h; simp [Ne.symm h]

theorem stripSuffix?_eq_some_iff {p s r : List Char} :
    stripSuffix? p s = some r ↔ s = r ++ p := by
  simp only [stripSuffix?, Option.map_eq_some_iff, stripPrefix?_eq_some_iff]
  constructor
  · rintro ⟨a, h, rfl⟩
    have := congrArg List.reverse h
    simpa using this
  · rintro rfl
    exact ⟨r.reverse, by simp, by simp⟩

/-- Whether `p` occurs in `s`. -/
def contains (p s : List Char) : Bool :=
  match s with
  | [] => p.isEmpty
  | c :: r => (stripPrefix? p (c :: r)).isSome || contains p r

/-- `s` with every occurrence of the non-empty text `p :: ps`, found from the left and not
overlapping, given as `by_`. -/
def replaceAll (p : List Char) (by_ : List Char) (s : List Char) : List Char :=
  go s.length s
where
  /-- One occurrence or one character at a time. -/
  go : Nat → List Char → List Char
    | 0, s => s
    | _ + 1, [] => []
    | n + 1, c :: r =>
      match stripPrefix? p (c :: r) with
      | some rest => by_ ++ go n rest
      | none => c :: go n r

end SqlDialect.Text
