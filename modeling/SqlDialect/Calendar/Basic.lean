import SqlDialect.Text.Number
/-!
# Dates and times of day

The proleptic Gregorian calendar over a fixed range of years, and times of day with nanoseconds. In
a leap second the nanoseconds count on past a full second. `Time.of?` makes such times only behind
the last second of a minute, but a second or its nanoseconds can be replaced later, so a `Time` may
have them behind any second.

`Date.text` and `Time.text` are the written forms: a year outside `0000` to `9999` carries a sign,
and a fraction has three, six or nine digits, as few as it needs, or is left out.
-/

namespace SqlDialect.Calendar

def isLeapYear (year : Int) : Bool := year % 4 == 0 && (year % 100 != 0 || year % 400 == 0)

def daysInMonth (year : Int) (month : Nat) : Nat :=
  if month = 2 then if isLeapYear year then 29 else 28
  else if month = 4 ∨ month = 6 ∨ month = 9 ∨ month = 11 then 30
  else 31

def firstYear : Int := -262143

def lastYear : Int := 262142

structure Date where
  year : Int
  month : Nat
  day : Nat
  year_mem : firstYear ≤ year ∧ year ≤ lastYear
  month_mem : 1 ≤ month ∧ month ≤ 12
  day_mem : 1 ≤ day ∧ day ≤ daysInMonth year month
  deriving DecidableEq

def nanosPerSecond : Nat := 1000000000

structure Time where
  hour : Nat
  minute : Nat
  second : Nat
  /-- From one second on, the time lies in a leap second. -/
  nanos : Nat
  hour_lt : hour < 24
  minute_lt : minute < 60
  second_lt : second < 60
  nanos_lt : nanos < 2 * nanosPerSecond
  deriving DecidableEq

structure DateTime where
  date : Date
  time : Time
  deriving DecidableEq

def Date.of? (year : Int) (month day : Nat) : Option Date :=
  if h : (firstYear ≤ year ∧ year ≤ lastYear) ∧ (1 ≤ month ∧ month ≤ 12) ∧
      (1 ≤ day ∧ day ≤ daysInMonth year month) then
    some ⟨year, month, day, h.1, h.2.1, h.2.2⟩
  else none

/-- The time with this hour, minute, second and nanosecond, if there is one that leaps behind the
last second of a minute only. -/
def Time.of? (hour minute second nanos : Nat) : Option Time :=
  if h : hour < 24 ∧ minute < 60 ∧ second < 60 ∧ nanos < 2 * nanosPerSecond ∧
      (nanosPerSecond ≤ nanos → second = 59) then
    some ⟨hour, minute, second, nanos, h.1, h.2.1, h.2.2.1, h.2.2.2.1⟩
  else none

/-- The same second of another minute of the day. -/
def Time.atMinute (t : Time) (minuteOfDay : Nat) (h : minuteOfDay < 1440) : Time :=
  { t with
    hour := minuteOfDay / 60
    minute := minuteOfDay % 60
    hour_lt := by omega
    minute_lt := Nat.mod_lt _ (by decide) }

def Date.next? (d : Date) : Option Date :=
  (Date.of? d.year d.month (d.day + 1)).or
    ((Date.of? d.year (d.month + 1) 1).or (Date.of? (d.year + 1) 1 1))

def Date.previous? (d : Date) : Option Date :=
  if d.day = 1 then
    if d.month = 1 then Date.of? (d.year - 1) 12 31
    else Date.of? d.year (d.month - 1) (daysInMonth d.year (d.month - 1))
  else Date.of? d.year d.month (d.day - 1)

/-- A number of minutes earlier, less than a day. -/
def DateTime.minusMinutes? (t : DateTime) (minutes : Int) : Option DateTime := do
  let total : Int := t.time.hour * 60 + t.time.minute - minutes
  let date ←
    if total < 0 then t.date.previous? else if 1440 ≤ total then t.date.next? else some t.date
  some ⟨date, t.time.atMinute (total % 1440).toNat (by omega)⟩

/-! ### Written forms -/

/-- A year: four digits, with a sign outside `0` to `9999`. -/
def yearText (year : Int) : List Char :=
  if 0 ≤ year ∧ year ≤ 9999 then Text.padded 4 year.toNat
  else (if year < 0 then '-' else '+') :: Text.padded 4 year.natAbs

/-- The fraction of a second: nothing, or a point and three, six or nine digits. -/
def fractionText (nanos : Nat) : List Char :=
  if nanos = 0 then []
  else if nanos % 1000000 = 0 then '.' :: Text.padded 3 (nanos / 1000000)
  else if nanos % 1000 = 0 then '.' :: Text.padded 6 (nanos / 1000)
  else '.' :: Text.padded 9 nanos

/-- Year, month and day between hyphens. -/
def Date.chars (d : Date) : List Char :=
  yearText d.year ++ '-' :: Text.padded 2 d.month ++ '-' :: Text.padded 2 d.day

/-- Hour, minute and second between colons, with the fraction. A leap second is written as the
second after the one that it stands behind, so mostly as `60`. -/
def Time.chars (t : Time) : List Char :=
  Text.padded 2 t.hour ++ ':' :: Text.padded 2 t.minute ++
    ':' :: Text.padded 2 (t.second + t.nanos / nanosPerSecond) ++
    fractionText (t.nanos % nanosPerSecond)

def DateTime.chars (t : DateTime) (separator : Char) : List Char :=
  t.date.chars ++ separator :: t.time.chars

def Date.text (d : Date) : String := String.ofList d.chars

def Time.text (t : Time) : String := String.ofList t.chars

/-- The written form with a blank between date and time. -/
def DateTime.text (t : DateTime) : String := String.ofList (t.chars ' ')

/-- The written form with a `T` between date and time. -/
def DateTime.isoText (t : DateTime) : String := String.ofList (t.chars 'T')

end SqlDialect.Calendar
