import SqlDialect.Calendar.Basic
import SqlDialect.Decimal.Power
import SqlDialect.Text.Blank
/-!
# Reading dates and times

A field is one or two digits, a year up to four or, after a sign, any number. Blank characters may
stand before a field and before a hyphen or colon. A fraction of a second may have any number of
digits; those after the ninth are dropped. A time alone may leave out its seconds.
-/

namespace SqlDialect.Calendar

/-- Up to `width` digits, one at least, after blank characters. -/
def readField? (width : Nat) (s : List Char) : Option (Nat × List Char) :=
  let s := Text.trimStart s
  let ds := (s.takeWhile Text.isDigit).take width
  if ds.isEmpty then none else some (Text.digitsValue ds, s.drop ds.length)

/-- Digits without a limit, one at least. -/
def readRun? (s : List Char) : Option (Nat × List Char) :=
  let ds := s.takeWhile Text.isDigit
  if ds.isEmpty then none else some (Text.digitsValue ds, s.dropWhile Text.isDigit)

/-- A year: at most four digits, or a sign and any number. -/
def readYear? (s : List Char) : Option (Int × List Char) :=
  match Text.trimStart s with
  | '-' :: r => (readRun? r).map fun (n, rest) => (-(n : Int), rest)
  | '+' :: r => (readRun? r).map fun (n, rest) => ((n : Int), rest)
  | r => (readField? 4 r).map fun (n, rest) => ((n : Int), rest)

def expect? (c : Char) : List Char → Option (List Char)
  | d :: r => if d = c then some r else none
  | [] => none

def expectAfterBlank? (c : Char) (s : List Char) : Option (List Char) :=
  expect? c (Text.trimStart s)

/-- The nanoseconds that the first nine digits of a fraction stand for. -/
def fractionNanos (ds : List Char) : Nat :=
  let ds := ds.take 9
  Text.digitsValue ds * Decimal.tenPow (9 - ds.length)

def readFraction? : List Char → Option (Nat × List Char)
  | '.' :: r =>
    let ds := r.takeWhile Text.isDigit
    if ds.isEmpty then none else some (fractionNanos ds, r.dropWhile Text.isDigit)
  | s => some (0, s)

/-- Year, month and day. -/
def readDate? (s : List Char) : Option (Date × List Char) := do
  let (year, s) ← readYear? s
  let s ← expectAfterBlank? '-' s
  let (month, s) ← readField? 2 s
  let s ← expectAfterBlank? '-' s
  let (day, s) ← readField? 2 s
  let date ← Date.of? year month day
  some (date, s)

/-- The time with this second, where `60` is a leap second. -/
def timeOf? (hour minute second nanos : Nat) : Option Time :=
  if second = 60 then Time.of? hour minute 59 (nanosPerSecond + nanos)
  else Time.of? hour minute second nanos

/-- Hour, minute, second and fraction, and blank characters after them. -/
def readTime? (s : List Char) : Option (Time × List Char) := do
  let (hour, s) ← readField? 2 s
  let s ← expectAfterBlank? ':' s
  let (minute, s) ← readField? 2 s
  let s ← expectAfterBlank? ':' s
  let (second, s) ← readField? 2 s
  let (nanos, s) ← readFraction? s
  let time ← timeOf? hour minute second nanos
  some (time, Text.trimStart s)

/-- Hour and minute, and blank characters after them. -/
def readHourAndMinute? (s : List Char) : Option (Time × List Char) := do
  let (hour, s) ← readField? 2 s
  let s ← expectAfterBlank? ':' s
  let (minute, s) ← readField? 2 s
  let time ← Time.of? hour minute 0 0
  some (time, Text.trimStart s)

/-- The value, if nothing is left. -/
def whole? {α : Type} : Option (α × List Char) → Option α
  | some (a, []) => some a
  | _ => none

def Date.read? (s : String) : Option Date := whole? (readDate? s.toList)

/-- The time that a text is, with or without seconds. -/
def Time.read? (s : String) : Option Time :=
  (whole? (readTime? s.toList)).or (whole? (readHourAndMinute? s.toList))

/-- Date and time with a `T` between them. -/
def DateTime.read? (s : String) : Option DateTime := whole? do
  let (date, s) ← readDate? s.toList
  let s ← expectAfterBlank? 'T' s
  let (time, s) ← readTime? s
  some (⟨date, time⟩, s)

def readTwoDigits? : List Char → Option (Nat × List Char)
  | a :: b :: r =>
    if Text.isDigit a && Text.isDigit b then some (Text.digitsValue [a, b], r) else none
  | _ => none

/-- An offset from universal time in minutes: `Z`, `UTC`, or a sign, hours and minutes. -/
def readOffset? (s : List Char) : Option (Int × List Char) :=
  if Text.eqIgnoreCase (s.take 3) "utc".toList then some (0, s.drop 3)
  else
    match s with
    | c :: r =>
      if c = 'Z' ∨ c = 'z' then some (0, r)
      else if c = '+' ∨ c = '-' ∨ c = '−' then do
        let (hours, r) ← readTwoDigits? r
        let r := r.dropWhile fun c => c == ':' || Text.isBlank c
        let (minutes, r) ← readTwoDigits? r
        let offset : Int := hours * 60 + minutes
        if minutes < 60 ∧ offset < 1440 then some (if c = '+' then offset else -offset, r)
        else none
      else none
    | [] => none

/-- A date, `T` or a blank, a time and an offset, taken to universal time. -/
def DateTime.readUtc? (s : String) : Option DateTime := do
  let (date, s) ← readDate? s.toList
  let s ←
    match s with
    | c :: r => if c = 'T' ∨ c = 't' ∨ c = ' ' then some r else none
    | [] => none
  let (time, s) ← readTime? s
  let (offset, s) ← readOffset? s
  if (Text.trimStart s).isEmpty then (⟨date, time⟩ : DateTime).minusMinutes? offset else none

end SqlDialect.Calendar
