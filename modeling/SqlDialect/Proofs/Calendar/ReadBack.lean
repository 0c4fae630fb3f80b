import SqlDialect.Proofs.Calendar.Written
/-!
# Dates and times read back

The readers of dates and times let more pass than is ever written: shorter fields, blanks in
front of them, fractions of any length. What is written they still read as what it stands for: a
date (`Date.read?_text`), a time of day (`Time.read?_text`), and a date with a time, in no zone
(`DateTime.read?_isoText`) or in universal time (`DateTime.readUtc?_isoText`).

A field that was padded to its width fills it, so the reader stops where the field does, whatever
follows. Only a year with a sign and a fraction go on until a character that is no digit.
-/

namespace SqlDialect.Calendar

open Text (isBlank isDigit padded trimStart)

variable {rest : List Char}

/-! ### Fields -/

theorem trimStart_of_head? {s : List Char} (h : ∀ c, s.head? = some c → isBlank c = false) :
    trimStart s = s := by
  cases s with
  | nil => rfl
  | cons c s => exact List.dropWhile_cons_of_neg (by rw [h c rfl]; exact Bool.false_ne_true)

theorem trimStart_cons {c : Char} (hc : isBlank c = false) (s : List Char) :
    trimStart (c :: s) = c :: s := by
  refine trimStart_of_head? ?_
  rintro _ ⟨⟩
  exact hc

theorem trimStart_padded {width : Nat} (hwidth : 0 < width) (n : Nat) (rest : List Char) :
    trimStart (padded width n ++ rest) = padded width n ++ rest :=
  trimStart_of_head? fun c hc => Text.not_isBlank_of_isDigit (isDigit_of_head?_padded n hwidth c hc)

theorem expectAfterBlank?_cons {c : Char} (hc : isBlank c = false) (rest : List Char) :
    expectAfterBlank? c (c :: rest) = some rest := by
  rw [expectAfterBlank?, trimStart_cons hc, expect?_cons]

/-- **A field that fills its width** is read, whatever follows. -/
theorem readField?_padded {width n : Nat} (hwidth : 0 < width) (h : n < Decimal.tenPow width)
    (rest : List Char) : readField? width (padded width n ++ rest) = some (n, rest) := by
  have hlength : (padded width n).length = width := Text.length_padded hwidth h
  have hfront : ((padded width n ++ rest).takeWhile isDigit).take width = padded width n := by
    rw [List.takeWhile_append_of_pos (Text.allDigits_padded width n), List.take_left' hlength]
  have hne : (padded width n).isEmpty = false := by
    rw [List.isEmpty_eq_false_iff, ← List.length_pos_iff]
    omega
  rw [readField?, trimStart_padded hwidth, hfront, hne, if_neg Bool.false_ne_true,
    Text.digitsValue_padded, List.drop_left]

theorem readRun?_padded {width : Nat} (hwidth : 0 < width) (n : Nat)
    (hrest : ∀ c, rest.head? = some c → isDigit c = false) :
    readRun? (padded width n ++ rest) = some (n, rest) := by
  have hdigits := Text.allDigits_padded width n
  have hne : (padded width n).isEmpty = false := by
    have hlength := Text.le_length_padded width n
    rw [List.isEmpty_eq_false_iff, ← List.length_pos_iff]
    omega
  rw [readRun?, Text.takeWhile_digits hdigits hrest, Text.dropWhile_digits hdigits hrest, hne,
    if_neg Bool.false_ne_true, Text.digitsValue_padded]

theorem readYear?_unsigned {s : List Char} (h : ∀ c, s.head? = some c → isDigit c = true) :
    readYear? s = (readField? 4 s).map fun (n, rest) => ((n : Int), rest) := by
  have htrim : trimStart s = s :=
    trimStart_of_head? fun c hc => Text.not_isBlank_of_isDigit (h c hc)
  unfold readYear?
  rw [htrim]
  split
  · have hsign := h '-' rfl
    cases hsign
  · have hsign := h '+' rfl
    cases hsign
  · rfl

/-- **A year is read back.** Up to four digits stand without a sign, more behind one. -/
theorem readYear?_yearText (year : Int) (hrest : ∀ c, rest.head? = some c → isDigit c = false) :
    readYear? (yearText year ++ rest) = some (year, rest) := by
  unfold yearText
  split
  · rename_i hyear
    have hvalue : ((year.toNat : Nat) : Int) = year := by omega
    have hwidth : year.toNat < Decimal.tenPow 4 := by
      show year.toNat < 10000
      omega
    have hhead : ∀ c, (padded 4 year.toNat ++ rest).head? = some c → isDigit c = true :=
      isDigit_of_head?_padded year.toNat (by decide)
    rw [readYear?_unsigned hhead, readField?_padded (by decide) hwidth, Option.map_some]
    exact congrArg (fun n => some (n, rest)) hvalue
  · by_cases hneg : year < 0
    · have hvalue : -(year.natAbs : Int) = year := by omega
      rw [if_pos hneg]
      show (readRun? (padded 4 year.natAbs ++ rest)).map _ = _
      rw [readRun?_padded (by decide) _ hrest, Option.map_some]
      exact congrArg (fun n => some (n, rest)) hvalue
    · have hvalue : (year.natAbs : Int) = year := by omega
      rw [if_neg hneg]
      show (readRun? (padded 4 year.natAbs ++ rest)).map _ = _
      rw [readRun?_padded (by decide) _ hrest, Option.map_some]
      exact congrArg (fun n => some (n, rest)) hvalue

theorem readFraction?_of_ne {s : List Char} (h : s.head? ≠ some '.') :
    readFraction? s = some (0, s) := by
  unfold readFraction?
  split
  · exact absurd rfl h
  · rfl

theorem writtenFraction?_of_ne {s : List Char} (h : s.head? ≠ some '.') :
    writtenFraction? s = some (0, s) := by
  unfold writtenFraction?
  split
  · exact absurd rfl h
  · rfl

/-- What is read as a fraction with three, six or nine digits is read as one with any number. -/
theorem readFraction?_of_written {s : List Char} {n : Nat}
    (h : writtenFraction? s = some (n, rest)) : readFraction? s = some (n, rest) := by
  by_cases hpoint : s.head? = some '.'
  · obtain ⟨s, rfl⟩ := List.head?_eq_some_iff.mp hpoint
    rw [writtenFraction?] at h
    obtain ⟨hlength, h⟩ := Option.ite_none_right_eq_some.mp h
    have hne : (s.takeWhile isDigit).isEmpty = false := by
      rw [List.isEmpty_eq_false_iff, ← List.length_pos_iff]
      omega
    rw [readFraction?, hne, if_neg Bool.false_ne_true]
    exact h
  · rw [writtenFraction?_of_ne hpoint] at h
    rw [readFraction?_of_ne hpoint]
    exact h

/-! ### Dates and times -/

theorem readDate?_chars (d : Date) (rest : List Char) :
    readDate? (d.chars ++ rest) = some (d, rest) := by
  have hmonth : d.month < Decimal.tenPow 2 := by
    have := d.month_mem
    show d.month < 100
    omega
  have hday : d.day < Decimal.tenPow 2 := by
    have := d.day_mem
    have := daysInMonth_le d.year d.month
    show d.day < 100
    omega
  have hhyphen : ∀ s : List Char, ∀ c, ('-' :: s).head? = some c → isDigit c = false := by
    rintro s c ⟨⟩
    rfl
  have hblank : isBlank '-' = false := by decide
  rw [readDate?, Date.chars]
  simp only [List.append_assoc, List.cons_append]
  rw [readYear?_yearText _ (hhyphen _)]
  simp only [Option.bind_eq_bind, Option.bind_some, expectAfterBlank?_cons hblank,
    readField?_padded Nat.two_pos hmonth, readField?_padded Nat.two_pos hday, Date.of?_self]

theorem readTime?_chars (t : Time)
    (hrest : ∀ c, rest.head? = some c → isDigit c = false ∧ c ≠ '.') :
    readTime? (t.chars ++ rest) = some (t.carried, trimStart rest) := by
  have hhour : t.hour < Decimal.tenPow 2 := Nat.lt_trans t.hour_lt (by decide)
  have hminute : t.minute < Decimal.tenPow 2 := Nat.lt_trans t.minute_lt (by decide)
  have hsecond : t.second + t.nanos / nanosPerSecond < Decimal.tenPow 2 := by
    have hsecond := t.second_lt
    have hnanos := t.nanos_lt
    show t.second + t.nanos / nanosPerSecond < 100
    rw [nanosPerSecond] at *
    omega
  have hnanos : t.nanos % nanosPerSecond < nanosPerSecond := Nat.mod_lt _ (by decide)
  have hfraction := readFraction?_of_written (writtenFraction?_fractionText hnanos hrest)
  have hblank : isBlank ':' = false := by decide
  rw [readTime?, Time.chars]
  simp only [List.append_assoc, List.cons_append, Option.bind_eq_bind, Option.bind_some,
    expectAfterBlank?_cons hblank, readField?_padded Nat.two_pos hhour,
    readField?_padded Nat.two_pos hminute, readField?_padded Nat.two_pos hsecond, hfraction,
    timeOf?_carried]

/-- **The written form of a date is that date.** -/
theorem Date.read?_text (d : Date) : Date.read? d.text = some d := by
  have hread := readDate?_chars d []
  rw [Date.read?, Date.text, String.toList_ofList]
  exact whole?_of_append_nil hread

theorem readTime?_all (t : Time) : readTime? t.chars = some (t.carried, []) := by
  have hread : readTime? (t.chars ++ []) = some (t.carried, []) := readTime?_chars t (by simp)
  rwa [List.append_nil] at hread

/-- **The written form of a time** is the time that it stands for. -/
theorem Time.read?_text (t : Time) : Time.read? t.text = some t.carried := by
  rw [Time.read?, Time.text, String.toList_ofList, readTime?_all]
  rfl

/-- **The written form of a date with a time** is what it stands for. -/
theorem DateTime.read?_isoText (t : DateTime) : DateTime.read? t.isoText = some t.carried := by
  have hblank : isBlank 'T' = false := by decide
  rw [DateTime.read?, DateTime.isoText, String.toList_ofList, DateTime.chars]
  simp only [Option.bind_eq_bind, readDate?_chars, Option.bind_some,
    expectAfterBlank?_cons hblank, readTime?_all]
  rfl

/-! ### Universal time -/

theorem atMinute_self (t : Time) (h : t.hour * 60 + t.minute < 1440) :
    t.atMinute (t.hour * 60 + t.minute) h = t := by
  have hminute := t.minute_lt
  have hhours : (t.hour * 60 + t.minute) / 60 = t.hour := by omega
  have hminutes : (t.hour * 60 + t.minute) % 60 = t.minute := by omega
  unfold Time.atMinute
  simp only [hhours, hminutes]

theorem minusMinutes?_zero (t : DateTime) : t.minusMinutes? 0 = some t := by
  have hhour := t.time.hour_lt
  have hminute := t.time.minute_lt
  have hday : (((t.time.hour : Int) * 60 + t.time.minute - 0) % 1440).toNat =
      t.time.hour * 60 + t.time.minute := by omega
  rw [DateTime.minusMinutes?]
  dsimp only
  rw [if_neg (by omega), if_neg (by omega)]
  simp only [hday, atMinute_self]
  rfl

/-- **The written form of a point in universal time** is what it stands for. -/
theorem DateTime.readUtc?_isoText (t : DateTime) :
    DateTime.readUtc? (t.isoText ++ "Z") = some t.carried := by
  have htime : readTime? (t.time.chars ++ ['Z']) = some (t.time.carried, ['Z']) := by
    refine readTime?_chars t.time ?_
    rintro _ ⟨⟩
    decide
  have hoffset : readOffset? ['Z'] = some (0, []) := by decide
  have hchars : (t.isoText ++ "Z").toList = t.date.chars ++ 'T' :: (t.time.chars ++ ['Z']) := by
    rw [String.toList_append, DateTime.isoText, String.toList_ofList, DateTime.chars]
    simp
  rw [DateTime.readUtc?, hchars]
  simp only [Option.bind_eq_bind, readDate?_chars, Option.bind_some, htime, hoffset, true_or,
    if_true]
  exact minusMinutes?_zero t.carried

end SqlDialect.Calendar
