import SqlDialect.Calendar.Reader
import SqlDialect.Proofs.Text.Integer
/-!
# Written dates and times

A reader of the written forms that takes nothing else: a sign or none and at least four digits
for a year, exactly two for every other field, and three, six or nine for a fraction. A second
`60` is a leap second.

The fields of a date or a time end where they have to. A year goes on to the hyphen behind it,
the other fields have their two digits, and a fraction goes on to what is neither a digit nor a
point. So each field is read back by itself, and with them the date (`Date.readWritten?_chars`)
and the time (`Time.readWritten?_chars`).

Nanoseconds past a full second are written as one second more. Only behind second 59 does this
make a second that no other time has. Behind any other second it is the next one, and `t.carried`
is the time in that second which is written like `t`. What is written for `t` is read as
`t.carried` (`timeOf?_carried`), so `t` itself is read back exactly if it leaps behind the last
second only (`Time.carried_eq_self_iff`).
-/

namespace SqlDialect.Calendar

open Text (AllDigits isDigit digitsValue padded)

/-! ### Readers -/

/-- As many digits as there are, at least four. -/
def longNumber? (s : List Char) : Option (Nat × List Char) :=
  let ds := s.takeWhile isDigit
  if 4 ≤ ds.length then some (digitsValue ds, s.dropWhile isDigit) else none

/-- A year: a sign or none, and at least four digits. -/
def writtenYear? : List Char → Option (Int × List Char)
  | '-' :: s => (longNumber? s).map fun (n, rest) => (-(n : Int), rest)
  | '+' :: s => (longNumber? s).map fun (n, rest) => ((n : Int), rest)
  | s => (longNumber? s).map fun (n, rest) => ((n : Int), rest)

/-- A point and three, six or nine digits, or nothing: the nanoseconds of a fraction. -/
def writtenFraction? : List Char → Option (Nat × List Char)
  | '.' :: s =>
    let ds := s.takeWhile isDigit
    if ds.length = 3 ∨ ds.length = 6 ∨ ds.length = 9 then
      some (fractionNanos ds, s.dropWhile isDigit)
    else none
  | s => some (0, s)

/-- Year, month and day between hyphens. -/
def Date.readWritten? (s : List Char) : Option (Date × List Char) := do
  let (year, s) ← writtenYear? s
  let s ← expect? '-' s
  let (month, s) ← readTwoDigits? s
  let s ← expect? '-' s
  let (day, s) ← readTwoDigits? s
  let date ← Date.of? year month day
  some (date, s)

/-- Hour, minute and second between colons, and a fraction. -/
def Time.readWritten? (s : List Char) : Option (Time × List Char) := do
  let (hour, s) ← readTwoDigits? s
  let s ← expect? ':' s
  let (minute, s) ← readTwoDigits? s
  let s ← expect? ':' s
  let (second, s) ← readTwoDigits? s
  let (nanos, s) ← writtenFraction? s
  let time ← timeOf? hour minute second nanos
  some (time, s)

def DateTime.readWritten? (separator : Char) (s : List Char) : Option (DateTime × List Char) := do
  let (date, s) ← Date.readWritten? s
  let s ← expect? separator s
  let (time, s) ← Time.readWritten? s
  some (⟨date, time⟩, s)

/-! ### Fields -/

variable {rest : List Char}

theorem expect?_cons (c : Char) (rest : List Char) : expect? c (c :: rest) = some rest := by
  rw [expect?, if_pos rfl]

/-- What is padded to some width begins with a digit. -/
theorem isDigit_of_head?_padded {width : Nat} (n : Nat) (hwidth : 0 < width) (c : Char)
    (hc : (padded width n ++ rest).head? = some c) : isDigit c = true := by
  have hdigits := Text.allDigits_padded width n
  have hlength := Text.le_length_padded width n
  cases hpadded : padded width n with
  | nil =>
    rw [hpadded, List.length_nil] at hlength
    omega
  | cons d ds =>
    rw [hpadded, List.cons_append, List.head?_cons, Option.some.injEq] at hc
    rw [hpadded] at hdigits
    exact hc ▸ hdigits d (List.mem_cons_self ..)

theorem writtenFraction?_padded {width n : Nat} (hwidth : width = 3 ∨ width = 6 ∨ width = 9)
    (h : n < Decimal.tenPow width) (hrest : ∀ c, rest.head? = some c → isDigit c = false) :
    writtenFraction? ('.' :: padded width n ++ rest) =
      some (n * Decimal.tenPow (9 - width), rest) := by
  have hlength : (padded width n).length = width := Text.length_padded (by omega) h
  have hdigits := Text.allDigits_padded width n
  have hnanos : fractionNanos (padded width n) = n * Decimal.tenPow (9 - width) := by
    rw [fractionNanos, List.take_of_length_le (by omega), Text.digitsValue_padded, hlength]
  show (let ds := (padded width n ++ rest).takeWhile isDigit
    if ds.length = 3 ∨ ds.length = 6 ∨ ds.length = 9 then
      some (fractionNanos ds, (padded width n ++ rest).dropWhile isDigit) else none) = _
  rw [Text.takeWhile_digits hdigits hrest, Text.dropWhile_digits hdigits hrest]
  dsimp only
  rw [hlength, if_pos hwidth, hnanos]

/-- **A fraction is read back**, with as many digits as it needs. -/
theorem writtenFraction?_fractionText {nanos : Nat} (h : nanos < nanosPerSecond)
    (hrest : ∀ c, rest.head? = some c → isDigit c = false ∧ c ≠ '.') :
    writtenFraction? (fractionText nanos ++ rest) = some (nanos, rest) := by
  have hend : ∀ c, rest.head? = some c → isDigit c = false := fun c hc => (hrest c hc).1
  rw [nanosPerSecond] at h
  unfold fractionText
  split
  · rename_i hzero
    rw [hzero, List.nil_append]
    unfold writtenFraction?
    split
    · exact absurd rfl (hrest '.' rfl).2
    · rfl
  split
  · have hdigits : nanos / 1000000 < Decimal.tenPow 3 := by
      show nanos / 1000000 < 1000
      omega
    rw [writtenFraction?_padded (Or.inl rfl) hdigits hend]
    congr 2
    show nanos / 1000000 * 1000000 = nanos
    omega
  split
  · have hdigits : nanos / 1000 < Decimal.tenPow 6 := by
      show nanos / 1000 < 1000000
      omega
    rw [writtenFraction?_padded (Or.inr (Or.inl rfl)) hdigits hend]
    congr 2
    show nanos / 1000 * 1000 = nanos
    omega
  · rw [writtenFraction?_padded (Or.inr (Or.inr rfl)) h hend]
    congr 2
    show nanos * 1 = nanos
    omega

/-! ### Dates and times -/

theorem daysInMonth_le (year : Int) (month : Nat) : daysInMonth year month ≤ 31 := by
  unfold daysInMonth
  split
  · split <;> omega
  split <;> omega

theorem Date.of?_self (d : Date) : Date.of? d.year d.month d.day = some d := by
  rw [Date.of?, dif_pos ⟨d.year_mem, d.month_mem, d.day_mem⟩]

/-- Nanoseconds of a leap second stand behind the last second of a minute only. -/
def Time.LeapsLast (t : Time) : Prop := nanosPerSecond ≤ t.nanos → t.second = 59

theorem Time.of?_self {t : Time} (h : t.LeapsLast) :
    Time.of? t.hour t.minute t.second t.nanos = some t := by
  rw [Time.of?, dif_pos ⟨t.hour_lt, t.minute_lt, t.second_lt, t.nanos_lt, h⟩]

/-- The time that a written form stands for: nanoseconds past a full second are carried into the
next second of the minute, if there is one. -/
def Time.carried (t : Time) : Time :=
  if h : nanosPerSecond ≤ t.nanos ∧ t.second ≠ 59 then
    { t with
      second := t.second + 1
      nanos := t.nanos - nanosPerSecond
      second_lt := by
        have := t.second_lt
        omega
      nanos_lt := Nat.lt_of_le_of_lt (Nat.sub_le ..) t.nanos_lt }
  else t

theorem Time.carried_of_leapsLast {t : Time} (h : t.LeapsLast) : t.carried = t :=
  dif_neg fun hleap => hleap.2 (h hleap.1)

theorem Time.leapsLast_carried (t : Time) : t.carried.LeapsLast := by
  unfold carried
  split
  · intro hleap
    have hnanos := t.nanos_lt
    exact absurd hleap (show ¬nanosPerSecond ≤ t.nanos - nanosPerSecond by omega)
  · rename_i hkept
    intro hleap
    exact Decidable.byContradiction fun hsecond => hkept ⟨hleap, hsecond⟩

/-- **A time stands for itself** exactly if it leaps behind the last second of a minute only. -/
theorem Time.carried_eq_self_iff {t : Time} : t.carried = t ↔ t.LeapsLast :=
  ⟨fun h => h ▸ t.leapsLast_carried, carried_of_leapsLast⟩

/-- A second and a fraction make up the time that their text stands for. -/
theorem timeOf?_carried (t : Time) :
    timeOf? t.hour t.minute (t.second + t.nanos / nanosPerSecond) (t.nanos % nanosPerSecond) =
      some t.carried := by
  have hsecond := t.second_lt
  have hnanos := t.nanos_lt
  by_cases hleap : nanosPerSecond ≤ t.nanos
  · have hone : t.nanos / nanosPerSecond = 1 := by
      rw [nanosPerSecond] at *
      omega
    have hrest : t.nanos % nanosPerSecond = t.nanos - nanosPerSecond := by
      rw [nanosPerSecond] at *
      omega
    rw [hone, hrest]
    by_cases hlast : t.second = 59
    · rw [timeOf?, hlast, if_pos rfl, Nat.add_sub_cancel' hleap, ← hlast,
        Time.of?_self fun _ => hlast, Time.carried_of_leapsLast fun _ => hlast]
    · have hcarried : t.carried = _ := dif_pos ⟨hleap, hlast⟩
      have hself := Time.of?_self t.leapsLast_carried
      rw [timeOf?, if_neg (by omega), ← hself, hcarried]
  · have hbefore : t.nanos < nanosPerSecond := Nat.not_le.mp hleap
    have hlast : t.LeapsLast := fun h => absurd h hleap
    rw [Nat.div_eq_of_lt hbefore, Nat.mod_eq_of_lt hbefore, timeOf?, if_neg (by omega),
      Time.carried_of_leapsLast hlast]
    exact Time.of?_self hlast

/-- A time is written like the one that its text stands for. -/
theorem Time.chars_carried (t : Time) : t.carried.chars = t.chars := by
  unfold carried
  split
  · rename_i hleap
    have hnanos := t.nanos_lt
    have hsecond : t.second + 1 + (t.nanos - nanosPerSecond) / nanosPerSecond =
        t.second + t.nanos / nanosPerSecond := by
      rw [nanosPerSecond] at *
      omega
    have hrest : (t.nanos - nanosPerSecond) % nanosPerSecond = t.nanos % nanosPerSecond :=
      (Nat.mod_eq_sub_mod hleap.1).symm
    simp only [chars, hsecond, hrest]
  · rfl

def DateTime.carried (t : DateTime) : DateTime := ⟨t.date, t.time.carried⟩

theorem DateTime.chars_carried (t : DateTime) (separator : Char) :
    t.carried.chars separator = t.chars separator := by
  rw [chars, chars, carried, Time.chars_carried]

theorem DateTime.carried_eq_self_iff {t : DateTime} : t.carried = t ↔ t.time.LeapsLast := by
  rw [← Time.carried_eq_self_iff]
  exact ⟨congrArg DateTime.time, fun h => congrArg (DateTime.mk t.date) h⟩

/-- A value that is read from a text with nothing behind it is what the text is. -/
theorem whole?_of_append_nil {α : Type} {read : List Char → Option (α × List Char)}
    {s : List Char} {x : α} (h : read (s ++ []) = some (x, [])) : whole? (read s) = some x := by
  rw [List.append_nil] at h
  rw [h]
  rfl

end SqlDialect.Calendar
