import Mathlib.Data.List.TakeWhile
import SqlDialect.Json.Printer
import SqlDialect.Json.Reader
import SqlDialect.Proofs.Text.Numeral
/-!
# Numbers in JSON

A number has no mark of its end. Each reader of a part of a number takes characters of
numbers only, and takes the same ones whatever else follows (`Takes`).

A number reads back if its own text is read as that number (`Number.ReadsBack`). For a
floating point number this is a matter of printing and rounding; an integer that fits 64 bits
always does (`Number.readsBack_integer`).
-/

namespace SqlDialect.Json

open Text (isDigit IsNumeralChar AllDigits)

/-! ### Where a number ends -/

/-- A text that does not go on with a number. -/
def EndsNumber (r : List Char) : Prop := ∀ c, r.head? = some c → ¬IsNumeralChar c

theorem endsNumber_nil : EndsNumber [] := by simp [EndsNumber]

theorem endsNumber_cons {c : Char} (hc : ¬IsNumeralChar c) (r : List Char) :
    EndsNumber (c :: r) := by
  rintro _ ⟨⟩
  exact hc

variable {r : List Char}

theorem takeWhile_isDigit_append (hr : EndsNumber r) (s : List Char) :
    (s ++ r).takeWhile isDigit = s.takeWhile isDigit := by
  induction s with
  | nil =>
    cases r with
    | nil => rfl
    | cons c r => exact List.takeWhile_cons_of_neg fun h => hr c rfl (Or.inl h)
  | cons c s ih =>
    rw [List.cons_append, List.takeWhile_cons, List.takeWhile_cons, ih]

theorem dropWhile_isDigit_append (hr : EndsNumber r) (s : List Char) :
    (s ++ r).dropWhile isDigit = s.dropWhile isDigit ++ r := by
  have hsplit := List.takeWhile_append_dropWhile (p := isDigit) (l := s ++ r)
  rw [takeWhile_isDigit_append hr] at hsplit
  have hwhole : s.takeWhile isDigit ++ (s.dropWhile isDigit ++ r) = s ++ r := by
    rw [← List.append_assoc, List.takeWhile_append_dropWhile]
  exact List.append_cancel_left (hsplit.trans hwhole.symm)

/-- One text is the other with characters of numbers in front. -/
def Leaves (s t : List Char) : Prop := ∃ head, s = head ++ t ∧ ∀ c ∈ head, IsNumeralChar c

theorem Leaves.refl (s : List Char) : Leaves s s := ⟨[], rfl, by simp⟩

theorem Leaves.cons {c : Char} (hc : IsNumeralChar c) {s t : List Char} (h : Leaves s t) :
    Leaves (c :: s) t := by
  obtain ⟨head, rfl, hhead⟩ := h
  exact ⟨c :: head, rfl, List.forall_mem_cons.mpr ⟨hc, hhead⟩⟩

theorem Leaves.trans {s t u : List Char} (hst : Leaves s t) (htu : Leaves t u) : Leaves s u := by
  obtain ⟨head, rfl, hhead⟩ := hst
  obtain ⟨head', rfl, hhead'⟩ := htu
  exact ⟨head ++ head', (List.append_assoc ..).symm, List.forall_mem_append.mpr ⟨hhead, hhead'⟩⟩

theorem leaves_dropWhile (s : List Char) : Leaves s (s.dropWhile isDigit) :=
  ⟨s.takeWhile isDigit, List.takeWhile_append_dropWhile.symm,
    fun c hc => Or.inl (Text.allDigits_takeWhile s c hc)⟩

/-- A reader of a part of a number: what it takes is made of characters of numbers, and it takes
the same and leaves the rest if something else follows. -/
structure Takes {α : Type} (f : List Char → Option (α × List Char)) : Prop where
  leaves : ∀ {s t : List Char} {a : α}, f s = some (a, t) → Leaves s t
  append : ∀ {s t r : List Char} {a : α}, EndsNumber r → f s = some (a, t) →
    f (s ++ r) = some (a, t ++ r)

/-! ### Fraction and exponent -/

theorem readPlaces?_of_ne {s : List Char} (h : s.head? ≠ some '.') :
    readPlaces? s = some (none, s) := by
  unfold readPlaces?
  split
  · exact absurd rfl h
  · rfl

theorem takes_readPlaces : Takes readPlaces? where
  leaves {s t a} h := by
    by_cases hpoint : s.head? = some '.'
    · obtain ⟨s, rfl⟩ := List.head?_eq_some_iff.mp hpoint
      rw [readPlaces?] at h
      split at h
      · cases h
      · cases h
        exact (leaves_dropWhile s).cons (Or.inr (by decide))
    · rw [readPlaces?_of_ne hpoint] at h
      cases h
      exact Leaves.refl _
  append {s t r a} hr h := by
    by_cases hpoint : s.head? = some '.'
    · obtain ⟨s, rfl⟩ := List.head?_eq_some_iff.mp hpoint
      rw [readPlaces?] at h
      rw [List.cons_append, readPlaces?]
      rw [takeWhile_isDigit_append hr, dropWhile_isDigit_append hr]
      split at h
      · cases h
      · rename_i hne
        cases h
        rw [if_neg hne]
    · have hpoint' : (s ++ r).head? ≠ some '.' := by
        cases s with
        | nil => exact fun h => hr '.' h (Or.inr (by decide))
        | cons c s => exact hpoint
      rw [readPlaces?_of_ne hpoint] at h
      cases h
      exact readPlaces?_of_ne hpoint'

/-- Whether the sign of an exponent is a minus, and what follows the sign. -/
def exponentSign (s : List Char) : Bool × List Char :=
  match s with
  | '+' :: r => (false, r)
  | '-' :: r => (true, r)
  | r => (false, r)

theorem leaves_exponentSign (s : List Char) : Leaves s (exponentSign s).2 := by
  unfold exponentSign
  split
  · exact (Leaves.refl _).cons (Or.inr (by decide))
  · exact (Leaves.refl _).cons (Or.inr (by decide))
  · exact Leaves.refl _

theorem exponentSign_append {s : List Char} (hs : s ≠ []) (r : List Char) :
    exponentSign (s ++ r) = ((exponentSign s).1, (exponentSign s).2 ++ r) := by
  obtain ⟨c, s, rfl⟩ := List.exists_cons_of_ne_nil hs
  unfold exponentSign
  rw [List.cons_append]
  split <;> split <;> simp_all

theorem readExponent?_of_ne {s : List Char} (h : ∀ c, s.head? = some c → ¬(c = 'e' ∨ c = 'E')) :
    readExponent? s = some (none, s) := by
  cases s with
  | nil => rfl
  | cons c s => exact if_neg (h c rfl)

theorem readExponent?_cons {c : Char} (hc : c = 'e' ∨ c = 'E') (s : List Char) :
    readExponent? (c :: s) =
      if ((exponentSign s).2.takeWhile isDigit).isEmpty then none
      else
        let n : Int := Text.digitsValue ((exponentSign s).2.takeWhile isDigit)
        some (some (if (exponentSign s).1 then -n else n),
          (exponentSign s).2.dropWhile isDigit) := by
  exact if_pos hc

theorem takes_readExponent : Takes readExponent? where
  leaves {s t a} h := by
    by_cases hletter : ∃ c, s.head? = some c ∧ (c = 'e' ∨ c = 'E')
    · obtain ⟨c, hhead, hc⟩ := hletter
      obtain ⟨s, rfl⟩ := List.head?_eq_some_iff.mp hhead
      have hchar : IsNumeralChar c := by rcases hc with rfl | rfl <;> exact Or.inr (by decide)
      rw [readExponent?_cons hc] at h
      split at h
      · cases h
      · cases h
        exact ((leaves_exponentSign s).trans (leaves_dropWhile _)).cons hchar
    · rw [readExponent?_of_ne fun c hhead hc => hletter ⟨c, hhead, hc⟩] at h
      cases h
      exact Leaves.refl _
  append {s t r a} hr h := by
    by_cases hletter : ∃ c, s.head? = some c ∧ (c = 'e' ∨ c = 'E')
    · obtain ⟨c, hhead, hc⟩ := hletter
      obtain ⟨s, rfl⟩ := List.head?_eq_some_iff.mp hhead
      rw [readExponent?_cons hc] at h
      -- There are digits after the sign, so the sign stays what it is.
      have hs : s ≠ [] := by
        rintro rfl
        cases h
      rw [List.cons_append, readExponent?_cons hc, exponentSign_append hs,
        takeWhile_isDigit_append hr, dropWhile_isDigit_append hr]
      split at h
      · cases h
      · rename_i hne
        cases h
        rw [if_neg hne]
    · have hnone : ∀ c, s.head? = some c → ¬(c = 'e' ∨ c = 'E') :=
        fun c hhead hc => hletter ⟨c, hhead, hc⟩
      have hnone' : ∀ c, (s ++ r).head? = some c → ¬(c = 'e' ∨ c = 'E') := by
        cases s with
        | nil =>
          rintro c hhead (rfl | rfl)
          · exact hr _ hhead (Or.inr (by decide))
          · exact hr _ hhead (Or.inr (by decide))
        | cons c s => exact hnone
      rw [readExponent?_of_ne hnone] at h
      cases h
      exact readExponent?_of_ne hnone'

/-! ### Whole numbers -/

/-- Whether a number begins with a minus, and what follows it. -/
def numberSign (s : List Char) : Bool × List Char :=
  match s with
  | '-' :: r => (true, r)
  | r => (false, r)

theorem leaves_numberSign (s : List Char) : Leaves s (numberSign s).2 := by
  unfold numberSign
  split
  · exact (Leaves.refl _).cons (Or.inr (by decide))
  · exact Leaves.refl _

theorem numberSign_append {s : List Char} (hs : s ≠ []) (r : List Char) :
    numberSign (s ++ r) = ((numberSign s).1, (numberSign s).2 ++ r) := by
  obtain ⟨c, s, rfl⟩ := List.exists_cons_of_ne_nil hs
  unfold numberSign
  rw [List.cons_append]
  split <;> split <;> simp_all

/-- One digit at least, and no superfluous zero in front. -/
def IsWhole (ds : List Char) : Prop := ds ≠ [] ∧ (ds.head? = some '0' → ds.length ≤ 1)

/-- A number is a sign, a whole number, a fraction and an exponent. -/
theorem readNumeral?_eq_some_iff {s t : List Char} {n : Numeral} :
    readNumeral? s = some (n, t) ↔
      n.negative = (numberSign s).1 ∧ n.whole = (numberSign s).2.takeWhile isDigit ∧
      IsWhole n.whole ∧
      ∃ u, readPlaces? ((numberSign s).2.dropWhile isDigit) = some (n.places, u) ∧
        readExponent? u = some (n.exponent, t) := by
  have hparts : readNumeral? s =
      if ((numberSign s).2.takeWhile isDigit).isEmpty ||
          (((numberSign s).2.takeWhile isDigit).head? == some '0' &&
            1 < ((numberSign s).2.takeWhile isDigit).length) then none
      else
        (readPlaces? ((numberSign s).2.dropWhile isDigit)).bind fun places =>
          (readExponent? places.2).bind fun exponent =>
            some (⟨(numberSign s).1, (numberSign s).2.takeWhile isDigit, places.1, exponent.1⟩,
              exponent.2) := rfl
  rw [hparts]
  generalize (numberSign s).2.takeWhile isDigit = whole
  generalize (numberSign s).2.dropWhile isDigit = rest
  have hwhole : (whole.isEmpty || (whole.head? == some '0' && 1 < whole.length)) = true ↔
      ¬IsWhole whole := by
    simp [IsWhole]
    grind
  by_cases hw : IsWhole whole
  · rw [if_neg (fun h => hwhole.mp h hw)]
    simp only [Option.bind_eq_some_iff, Option.some.injEq, Prod.mk.injEq, Prod.exists]
    constructor
    · rintro ⟨places, u, hplaces, exponent, v, hexponent, rfl, rfl⟩
      exact ⟨rfl, rfl, hw, u, hplaces, hexponent⟩
    · rintro ⟨hnegative, rfl, -, u, hplaces, hexponent⟩
      exact ⟨n.places, u, hplaces, n.exponent, t, hexponent, by rw [← hnegative], rfl⟩
  · rw [if_pos (hwhole.mpr hw)]
    constructor
    · intro h
      cases h
    · rintro ⟨-, rfl, h, -⟩
      exact absurd h hw

theorem takes_readNumeral : Takes readNumeral? where
  leaves {s t n} h := by
    obtain ⟨-, -, -, u, hplaces, hexponent⟩ := readNumeral?_eq_some_iff.mp h
    exact (leaves_numberSign s).trans ((leaves_dropWhile _).trans
      ((takes_readPlaces.leaves hplaces).trans (takes_readExponent.leaves hexponent)))
  append {s t r n} hr h := by
    obtain ⟨hnegative, hdigits, hwhole, u, hplaces, hexponent⟩ := readNumeral?_eq_some_iff.mp h
    -- There are digits after the sign, so the sign stays what it is.
    have hs : s ≠ [] := by
      rintro rfl
      exact hwhole.1 hdigits
    rw [readNumeral?_eq_some_iff, numberSign_append hs, takeWhile_isDigit_append hr,
      dropWhile_isDigit_append hr]
    exact ⟨hnegative, hdigits, hwhole, u ++ r, takes_readPlaces.append hr hplaces,
      takes_readExponent.append hr hexponent⟩

/-! ### Numbers that read back -/

/-- The text of the number is read as that number. -/
def Number.ReadsBack (n : Number) : Prop :=
  ∃ m, readNumeral? n.text.toList = some (m, []) ∧ m.value? = some n

theorem chars_of_readNumeral? {s : List Char} {m : Numeral} (h : readNumeral? s = some (m, [])) :
    ∀ c ∈ s, IsNumeralChar c := by
  obtain ⟨head, hs, hhead⟩ := takes_readNumeral.leaves h
  rwa [hs, List.append_nil]

theorem ne_nil_of_readNumeral? {s : List Char} {m : Numeral}
    (h : readNumeral? s = some (m, [])) : s ≠ [] := by
  obtain ⟨-, hdigits, hwhole, -⟩ := readNumeral?_eq_some_iff.mp h
  rintro rfl
  exact hwhole.1 hdigits

theorem Number.ReadsBack.chars {n : Number} (h : n.ReadsBack) :
    ∀ c ∈ n.text.toList, IsNumeralChar c := by
  obtain ⟨m, hm, -⟩ := h
  exact chars_of_readNumeral? hm

/-! ### Integers -/

theorem le_ofDigitChars (ds : List Char) (n : Nat) : n ≤ Nat.ofDigitChars 10 ds n := by
  induction ds generalizing n with
  | nil => exact Nat.le_refl n
  | cons d ds ih =>
    rw [Nat.ofDigitChars_cons]
    exact Nat.le_trans (by omega) (ih _)

/-- All digits of a number that fits a significand are taken. -/
theorem gather_eq {ds : List Char} {n : Nat}
    (h : Nat.ofDigitChars 10 ds n < 0x10000000000000000) :
    gather n ds = (Nat.ofDigitChars 10 ds n, ds.length) := by
  induction ds generalizing n with
  | nil => rfl
  | cons d ds ih =>
    rw [Nat.ofDigitChars_cons] at h ⊢
    have hfits := Nat.lt_of_le_of_lt (le_ofDigitChars ds _) h
    rw [gather, Text.mul_ten_add_digitValue, if_pos hfits, ih h, List.length_cons]

theorem digitChar_ne_zero : ∀ n < 10, 0 < n → n.digitChar ≠ '0' := by decide

theorem head?_toDigits {n : Nat} (hn : 0 < n) : (Nat.toDigits 10 n).head? ≠ some '0' := by
  induction n using Nat.strongRecOn with
  | ind n ih =>
    by_cases hlt : n < 10
    · rw [Nat.toDigits_of_lt_base hlt]
      exact fun h => digitChar_ne_zero n hlt hn (Option.some.inj h)
    · obtain ⟨d, ds, hds⟩ :=
        List.exists_cons_of_ne_nil (Nat.toDigits_ne_nil (b := 10) (n := n / 10))
      have hfirst := ih (n / 10) (by omega) (by omega)
      rw [Nat.toDigits_of_base_le (by decide) (by omega), hds]
      rwa [hds] at hfirst

theorem isWhole_toDigits (n : Nat) : IsWhole (Nat.toDigits 10 n) := by
  refine ⟨Nat.toDigits_ne_nil, fun hzero => ?_⟩
  rcases Nat.eq_zero_or_pos n with rfl | hn
  · decide
  · exact absurd hzero (head?_toDigits hn)

theorem numberSign_digits (n : Int) :
    numberSign (toString n).toList = (decide (n < 0), Nat.toDigits 10 n.natAbs) := by
  rw [Text.toList_toString_int]
  by_cases hn : n < 0
  · simp [hn, numberSign]
  · obtain ⟨d, ds, hds⟩ :=
      List.exists_cons_of_ne_nil (Nat.toDigits_ne_nil (b := 10) (n := n.natAbs))
    have hd : d ≠ '-' := by
      rintro rfl
      have := Text.allDigits_toDigits n.natAbs '-' (hds ▸ List.mem_cons_self ..)
      cases this
    simp [hn, numberSign, hds]
    grind

/-- The parts of an integer. -/
def Numeral.ofInt (n : Int) : Numeral := ⟨decide (n < 0), Nat.toDigits 10 n.natAbs, none, none⟩

theorem readNumeral?_toString (n : Int) :
    readNumeral? (toString n).toList = some (Numeral.ofInt n, []) := by
  have hds := Text.allDigits_toDigits n.natAbs
  rw [readNumeral?_eq_some_iff, numberSign_digits]
  refine ⟨rfl, (List.takeWhile_eq_self_iff.mpr hds).symm, isWhole_toDigits _, [], ?_, rfl⟩
  rw [List.dropWhile_eq_nil_iff.mpr hds]
  rfl

/-- If all digits are taken, the number they spell fits a significand. -/
theorem lt_of_gather {ds : List Char} {n : Nat} (hn : n < 0x10000000000000000)
    (h : (gather n ds).2 = ds.length) : Nat.ofDigitChars 10 ds n < 0x10000000000000000 := by
  induction ds generalizing n with
  | nil => exact hn
  | cons d ds ih =>
    rw [gather] at h
    split at h
    · rename_i hfits
      rw [Nat.ofDigitChars_cons, ← Text.mul_ten_add_digitValue]
      exact ih hfits (Nat.succ_inj.mp h)
    · cases h

/-- A numeral is an integer if it has neither a fraction nor an exponent, all of its digits were
taken, and they fit behind the sign. -/
theorem Numeral.value?_eq_integer_iff {x : Numeral} {n : Int} :
    x.value? = some (.integer n) ↔
      (x.places.isNone ∧ x.exponent.isNone ∧ (gather 0 x.whole).2 = x.whole.length ∧
        (x.negative = false ∨
          (0 < (gather 0 x.whole).1 ∧ (gather 0 x.whole).1 ≤ 0x8000000000000000))) ∧
      (if x.negative then -((gather 0 x.whole).1 : Int) else (gather 0 x.whole).1) = n := by
  rw [Numeral.value?]
  dsimp only
  split
  · rename_i hinteger
    rw [Option.some.injEq, Number.integer.injEq]
    exact (and_iff_right hinteger).symm
  · rename_i hdouble
    refine iff_of_false ?_ fun h => hdouble h.1
    intro h
    obtain ⟨_, -, h⟩ := Option.map_eq_some_iff.mp h
    cases h

/-- **An integer is read as an integer exactly if it fits 64 bits**, with a sign or without, and
then as itself. -/
theorem Numeral.value?_ofInt_iff {n m : Int} :
    (Numeral.ofInt n).value? = some (.integer m) ↔
      m = n ∧ -0x8000000000000000 ≤ n ∧ n < 0x10000000000000000 := by
  have hvalue : Nat.ofDigitChars 10 (Nat.toDigits 10 n.natAbs) 0 = n.natAbs :=
    Nat.ofDigitChars_ten_toDigits
  rw [Numeral.value?_eq_integer_iff]
  by_cases hfits : n.natAbs < 0x10000000000000000
  · have hgather : gather 0 (Nat.toDigits 10 n.natAbs) =
        (n.natAbs, (Nat.toDigits 10 n.natAbs).length) := by
      rw [gather_eq (by omega), hvalue]
    have hself : (if n < 0 then -(n.natAbs : Int) else n.natAbs) = n := by
      split <;> omega
    simp only [Numeral.ofInt, hgather, decide_eq_true_eq, decide_eq_false_iff_not,
      Option.isNone_none, true_and, hself]
    omega
  · refine iff_of_false ?_ (by omega)
    rintro ⟨⟨-, -, htaken, -⟩, -⟩
    have hlt : Nat.ofDigitChars 10 (Nat.toDigits 10 n.natAbs) 0 < 0x10000000000000000 :=
      lt_of_gather (by decide) htaken
    rw [hvalue] at hlt
    exact hfits hlt

/-- **An integer that fits 64 bits, with a sign or without, reads back.** -/
theorem Number.readsBack_integer {n : Int} (hlow : -0x8000000000000000 ≤ n)
    (hhigh : n < 0x10000000000000000) : (Number.integer n).ReadsBack :=
  ⟨Numeral.ofInt n, readNumeral?_toString n, Numeral.value?_ofInt_iff.mpr ⟨rfl, hlow, hhigh⟩⟩

end SqlDialect.Json
