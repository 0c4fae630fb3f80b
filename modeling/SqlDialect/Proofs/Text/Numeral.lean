import SqlDialect.Decimal.Shortest
import SqlDialect.Text.Blank
import SqlDialect.Text.Number
/-!
# Plain numbers

`Numeral` is the grammar of a number as every engine reads it: one sign or none,
digits with at most one point and at least one digit, and an exponent or none.
Three things are written that way: a text that passes for a plain number
(`isPlainNumber_iff`), an integer (`numeral_int`) and a finite floating point
number in the plain layout (`numeral_write_plain`).

The test for a plain number looks at the characters and then reads a floating point
number, which may also be a word. No word has a digit, so only the grammar is left.
-/

namespace SqlDialect.Text

def AllDigits (s : List Char) : Prop := ∀ c ∈ s, isDigit c = true

inductive Sign : List Char → Prop
  | none : Sign []
  | plus : Sign ['+']
  | minus : Sign ['-']

/-- Nothing, or a letter for "times ten to the power of" with an integer. -/
inductive Exponent : List Char → Prop
  | none : Exponent []
  | some {c : Char} {sign ds : List Char} : c = 'e' ∨ c = 'E' → Sign sign → ds ≠ [] →
      AllDigits ds → Exponent (c :: (sign ++ ds))

/-- A number in plain or scientific notation. -/
inductive Numeral : List Char → Prop
  | whole {sign ds e : List Char} : Sign sign → ds ≠ [] → AllDigits ds → Exponent e →
      Numeral (sign ++ (ds ++ e))
  | point {sign ds places e : List Char} : Sign sign → ds ++ places ≠ [] → AllDigits ds →
      AllDigits places → Exponent e → Numeral (sign ++ (ds ++ '.' :: (places ++ e)))

theorem allDigits_takeWhile (s : List Char) : AllDigits (s.takeWhile isDigit) :=
  fun _ hc => List.all_eq_true.mp List.all_takeWhile _ hc

theorem AllDigits.append {s t : List Char} (hs : AllDigits s) (ht : AllDigits t) :
    AllDigits (s ++ t) := by
  intro c hc
  rcases List.mem_append.mp hc with h | h
  · exact hs c h
  · exact ht c h

theorem allDigits_replicate (n : Nat) : AllDigits (List.replicate n '0') := by
  intro c hc
  rw [List.eq_of_mem_replicate hc]
  decide

theorem AllDigits.take {s : List Char} (hs : AllDigits s) (n : Nat) : AllDigits (s.take n) :=
  fun c hc => hs c (List.mem_of_mem_take hc)

theorem AllDigits.drop {s : List Char} (hs : AllDigits s) (n : Nat) : AllDigits (s.drop n) :=
  fun c hc => hs c (List.mem_of_mem_drop hc)

/-! ### The characters of a number -/

/-- A character that a number may hold. -/
def IsNumeralChar (c : Char) : Prop := isDigit c = true ∨ c ∈ ['+', '-', '.', 'e', 'E']

instance : DecidablePred IsNumeralChar := fun c =>
  inferInstanceAs (Decidable (isDigit c = true ∨ c ∈ ['+', '-', '.', 'e', 'E']))

theorem Sign.chars {s : List Char} (h : Sign s) : ∀ c ∈ s, IsNumeralChar c := by
  cases h with
  | none => simp
  | plus => simp [IsNumeralChar]
  | minus => simp [IsNumeralChar]

theorem Exponent.chars {s : List Char} (h : Exponent s) : ∀ c ∈ s, IsNumeralChar c := by
  cases h with
  | none => simp
  | some hc hsign hne hds =>
    simp only [List.forall_mem_cons, List.forall_mem_append]
    refine ⟨Or.inr ?_, hsign.chars, fun c hc => Or.inl (hds c hc)⟩
    rcases hc with rfl | rfl <;> decide

theorem Numeral.chars {s : List Char} (h : Numeral s) : ∀ c ∈ s, IsNumeralChar c := by
  cases h with
  | whole hsign hne hds he =>
    simp only [List.forall_mem_append]
    exact ⟨hsign.chars, fun c hc => Or.inl (hds c hc), he.chars⟩
  | point hsign hne hds hplaces he =>
    simp only [List.forall_mem_append, List.forall_mem_cons]
    exact ⟨hsign.chars, fun c hc => Or.inl (hds c hc), Or.inr (by decide),
      fun c hc => Or.inl (hplaces c hc), he.chars⟩

theorem Numeral.ne_nil {s : List Char} (h : Numeral s) : s ≠ [] := by
  cases h with
  | whole hsign hne hds he => simp [hne]
  | point hsign hne hds hplaces he => simp

/-! ### Texts that pass for numbers -/

theorem exists_sign (s : List Char) : ∃ sign, Sign sign ∧ s = sign ++ dropSign s := by
  unfold dropSign
  split
  · exact ⟨['+'], .plus, rfl⟩
  · exact ⟨['-'], .minus, rfl⟩
  · exact ⟨[], .none, rfl⟩

theorem exponent_of_isExponent {s : List Char} (h : isExponent s = true) : Exponent s := by
  cases s with
  | nil => exact .none
  | cons c s =>
    rw [isExponent, isDigits, Bool.and_eq_true, Bool.or_eq_true, beq_iff_eq, beq_iff_eq,
      Bool.and_eq_true, Bool.not_eq_true', List.isEmpty_eq_false_iff, List.all_eq_true] at h
    obtain ⟨hc, hne, hds⟩ := h
    obtain ⟨sign, hsign, hs⟩ := exists_sign s
    rw [hs]
    exact .some hc hsign hne hds

/-- **What passes for a number is one.** -/
theorem numeral_of_isNumeral {s : List Char} (h : isNumeral s = true) : Numeral s := by
  obtain ⟨sign, hsign, hs⟩ := exists_sign s
  rw [isNumeral, isUnsignedNumeral] at h
  have hsplit := List.takeWhile_append_dropWhile (p := isDigit) (l := dropSign s)
  rw [hs, ← hsplit]
  split at h
  · rename_i r hr
    rw [Bool.and_eq_true, Bool.not_eq_true', Bool.and_eq_false_iff, List.isEmpty_eq_false_iff,
      List.isEmpty_eq_false_iff] at h
    rw [hr, ← List.takeWhile_append_dropWhile (p := isDigit) (l := r)]
    refine .point hsign ?_ (allDigits_takeWhile _) (allDigits_takeWhile _)
      (exponent_of_isExponent h.2)
    rw [Ne, List.append_eq_nil_iff]
    exact fun hn => h.1.elim (fun hw => hw hn.1) (fun hp => hp hn.2)
  · rw [Bool.and_eq_true, Bool.not_eq_true', List.isEmpty_eq_false_iff] at h
    exact .whole hsign h.1 (allDigits_takeWhile _) (exponent_of_isExponent h.2)

/-! ### Numbers pass -/

theorem not_isDigit_of_sign {c : Char} (hc : isDigit c = true) : c ≠ '+' ∧ c ≠ '-' := by
  constructor
  · rintro rfl
    exact absurd hc (by decide)
  · rintro rfl
    exact absurd hc (by decide)

theorem dropSign_append {sign t : List Char} (hsign : Sign sign)
    (ht : ∀ c, t.head? = some c → c ≠ '+' ∧ c ≠ '-') : dropSign (sign ++ t) = t := by
  cases hsign with
  | none =>
    rw [List.nil_append]
    unfold dropSign
    split
    · exact absurd rfl (ht '+' rfl).1
    · exact absurd rfl (ht '-' rfl).2
    · rfl
  | plus => rfl
  | minus => rfl

theorem head?_append_digits {ds rest : List Char} (hds : AllDigits ds) {c : Char}
    (hc : (ds ++ rest).head? = some c) : isDigit c = true ∨ rest.head? = some c := by
  cases ds with
  | nil => exact Or.inr hc
  | cons d ds =>
    obtain rfl : d = c := Option.some.inj hc
    exact Or.inl (hds d (List.mem_cons_self ..))

/-- Digits end where something else begins. -/
theorem takeWhile_digits {ds rest : List Char} (hds : AllDigits ds)
    (hrest : ∀ c, rest.head? = some c → isDigit c = false) :
    (ds ++ rest).takeWhile isDigit = ds := by
  have hstop : rest.takeWhile isDigit = [] := by
    cases rest with
    | nil => rfl
    | cons c rest => rw [List.takeWhile_cons, hrest c rfl, if_neg Bool.false_ne_true]
  rw [List.takeWhile_append_of_pos hds, hstop, List.append_nil]

theorem dropWhile_digits {ds rest : List Char} (hds : AllDigits ds)
    (hrest : ∀ c, rest.head? = some c → isDigit c = false) :
    (ds ++ rest).dropWhile isDigit = rest := by
  rw [List.dropWhile_append_of_pos hds]
  cases rest with
  | nil => rfl
  | cons c rest => rw [List.dropWhile_cons, hrest c rfl, if_neg Bool.false_ne_true]

theorem Exponent.head {e : List Char} (he : Exponent e) {c : Char} (hc : c ∈ e.head?) :
    isDigit c = false ∧ c ≠ '.' ∧ c ≠ '+' ∧ c ≠ '-' := by
  cases he with
  | none => cases hc
  | @some d sign ds hd hsign hne hds =>
    obtain rfl : d = c := Option.some.inj hc
    rcases hd with rfl | rfl <;> decide

theorem Exponent.isExponent {e : List Char} (he : Exponent e) : isExponent e = true := by
  cases he with
  | none => rfl
  | @some c sign ds hc hsign hne hds =>
    have hdrop : dropSign (sign ++ ds) = ds := by
      refine dropSign_append hsign fun d hd => ?_
      exact not_isDigit_of_sign (hds d (List.mem_of_mem_head? hd))
    rw [Text.isExponent, hdrop, isDigits, Bool.and_eq_true, Bool.and_eq_true, Bool.or_eq_true,
      beq_iff_eq, beq_iff_eq, Bool.not_eq_true', List.isEmpty_eq_false_iff, List.all_eq_true]
    exact ⟨hc, hne, hds⟩

theorem isUnsignedNumeral_whole {ds e : List Char} (hne : ds ≠ []) (hds : AllDigits ds)
    (he : Exponent e) : isUnsignedNumeral (ds ++ e) = true := by
  have hstop : ∀ c, e.head? = some c → isDigit c = false := fun c hc => (he.head hc).1
  rw [isUnsignedNumeral, takeWhile_digits hds hstop, dropWhile_digits hds hstop]
  dsimp only
  split
  · exact absurd rfl (he.head rfl).2.1
  · rw [he.isExponent, Bool.and_true, Bool.not_eq_true', List.isEmpty_eq_false_iff]
    exact hne

theorem isUnsignedNumeral_point {ds places e : List Char} (hne : ds ++ places ≠ [])
    (hds : AllDigits ds) (hplaces : AllDigits places) (he : Exponent e) :
    isUnsignedNumeral (ds ++ '.' :: (places ++ e)) = true := by
  have hpoint : ∀ c, ('.' :: (places ++ e)).head? = some c → isDigit c = false := by
    rintro _ ⟨⟩
    decide
  have hstop : ∀ c, e.head? = some c → isDigit c = false := fun c hc => (he.head hc).1
  rw [isUnsignedNumeral, takeWhile_digits hds hpoint, dropWhile_digits hds hpoint]
  show (!(ds.isEmpty && ((places ++ e).takeWhile isDigit).isEmpty) &&
    isExponent ((places ++ e).dropWhile isDigit)) = true
  rw [takeWhile_digits hplaces hstop, dropWhile_digits hplaces hstop, he.isExponent,
    Bool.and_true, Bool.not_eq_true', Bool.and_eq_false_iff, List.isEmpty_eq_false_iff,
    List.isEmpty_eq_false_iff]
  by_cases h : ds = []
  · refine Or.inr fun hplaces => hne ?_
    rw [h, hplaces, List.append_nil]
  · exact Or.inl h

/-- **The grammar of a number**, and the reader that goes from left to right through it. -/
theorem isNumeral_iff {s : List Char} : isNumeral s = true ↔ Numeral s := by
  constructor
  · exact numeral_of_isNumeral
  intro h
  rw [isNumeral]
  cases h with
  | @whole sign ds e hsign hne hds he =>
    rw [dropSign_append hsign]
    · exact isUnsignedNumeral_whole hne hds he
    · intro c hc
      rcases head?_append_digits hds hc with hd | hd
      · exact not_isDigit_of_sign hd
      · exact (he.head hd).2.2
  | @point sign ds places e hsign hne hds hplaces he =>
    rw [dropSign_append hsign]
    · exact isUnsignedNumeral_point hne hds hplaces he
    · intro c hc
      rcases head?_append_digits hds hc with hd | hd
      · exact not_isDigit_of_sign hd
      · obtain rfl : '.' = c := Option.some.inj hd
        decide

theorem Numeral.exists_digit {s : List Char} (h : Numeral s) : ∃ c ∈ s, isDigit c = true := by
  cases h with
  | @whole sign ds e hsign hne hds he =>
    obtain ⟨d, hd⟩ := List.exists_mem_of_ne_nil ds hne
    exact ⟨d, by simp [hd], hds d hd⟩
  | @point sign ds places e hsign hne hds hplaces he =>
    obtain ⟨d, hd⟩ := List.exists_mem_of_ne_nil _ hne
    refine ⟨d, ?_, hds.append hplaces d hd⟩
    rcases List.mem_append.mp hd with h | h <;> simp [h]

theorem isNumeralChar_iff {c : Char} : isNumeralChar c = true ↔ IsNumeralChar c := by
  rw [isNumeralChar, IsNumeralChar, Bool.or_eq_true, List.contains_iff_mem]

theorem lowerAscii_of_isDigit {c : Char} (hc : isDigit c = true) : lowerAscii c = c := by
  rw [isDigit, Bool.and_eq_true, decide_eq_true_eq, decide_eq_true_eq] at hc
  rw [lowerAscii, if_neg]
  rw [Bool.and_eq_true, decide_eq_true_eq, decide_eq_true_eq]
  intro h
  exact absurd (Char.le_trans h.1 hc.2) (by decide)

theorem not_isBlank_of_isDigit {c : Char} (hc : isDigit c = true) : isBlank c = false := by
  simp only [isDigit, Bool.and_eq_true, decide_eq_true_eq, Char.le_def] at hc
  have hlow : '0'.toNat ≤ c.toNat := UInt32.le_iff_toNat_le.mp hc.1
  have hhigh : c.toNat ≤ '9'.toNat := UInt32.le_iff_toNat_le.mp hc.2
  have h0 : '0'.toNat = 48 := rfl
  have h9 : '9'.toNat = 57 := rfl
  simp only [isBlank, Bool.or_eq_false_iff, Bool.and_eq_false_iff, decide_eq_false_iff_not,
    beq_eq_false_iff_ne]
  omega

/-- A digit is in no word that reads as a floating point number. -/
theorem isNumeral_of_isFloat {s : List Char} (h : isFloat s = true)
    (hdigit : ∃ c ∈ s, isDigit c = true) : isNumeral s = true := by
  rw [isFloat, Bool.or_eq_true] at h
  refine h.resolve_right fun hword => ?_
  obtain ⟨w, hw, heq⟩ := List.any_eq_true.mp hword
  rw [eqIgnoreCase, beq_iff_eq] at heq
  obtain ⟨sign, hsign, hs⟩ := exists_sign s
  obtain ⟨c, hc, hd⟩ := hdigit
  have hrest : c ∈ dropSign s := by
    rw [hs] at hc
    refine (List.mem_append.mp hc).resolve_left fun hmem => ?_
    cases hsign with
    | none => cases hmem
    | plus => exact (not_isDigit_of_sign hd).1 (List.mem_singleton.mp hmem)
    | minus => exact (not_isDigit_of_sign hd).2 (List.mem_singleton.mp hmem)
  have hmem : c ∈ w.toList.map lowerAscii := by
    rw [heq, ← lowerAscii_of_isDigit hd]
    exact List.mem_map_of_mem hrest
  have hwords : ∀ w ∈ ["inf", "infinity", "nan"],
      ((w.toList.map lowerAscii).all fun c => !isDigit c) = true := by decide
  have hno := List.all_eq_true.mp (hwords w hw) c hmem
  rw [hd] at hno
  cases hno

/-- **What passes for a plain number** is exactly what the grammar says. -/
theorem isPlainNumber_iff {s : List Char} : isPlainNumber s = true ↔ Numeral s := by
  rw [isPlainNumber, Bool.and_eq_true, Bool.and_eq_true, Bool.and_eq_true, Bool.not_eq_true',
    List.isEmpty_eq_false_iff, List.any_eq_true, List.all_eq_true]
  constructor
  · rintro ⟨⟨⟨-, hdigit⟩, -⟩, hfloat⟩
    exact isNumeral_iff.mp (isNumeral_of_isFloat hfloat hdigit)
  · intro h
    refine ⟨⟨⟨h.ne_nil, h.exists_digit⟩, fun c hc => isNumeralChar_iff.mpr (h.chars c hc)⟩, ?_⟩
    rw [isFloat, isNumeral_iff.mpr h, Bool.true_or]

/-! ### Integers -/

theorem allDigits_toDigits (n : Nat) : AllDigits (Nat.toDigits 10 n) :=
  fun _ hc => Nat.isDigit_of_mem_toDigits (by decide) (by decide) hc

theorem mul_ten_add_digitValue (n : Nat) (d : Char) :
    n * 10 + digitValue d = 10 * n + (d.toNat - '0'.toNat) := by
  rw [Nat.mul_comm]
  rfl

theorem digitsValue_eq_ofDigitChars (ds : List Char) :
    digitsValue ds = Nat.ofDigitChars 10 ds 0 := by
  have hfold (n : Nat) :
      ds.foldl (fun n c => n * 10 + digitValue c) n = Nat.ofDigitChars 10 ds n := by
    induction ds generalizing n with
    | nil => rfl
    | cons d ds ih => rw [List.foldl_cons, mul_ten_add_digitValue, Nat.ofDigitChars_cons, ih]
  exact hfold 0

theorem readDigits?_toDigits (n : Nat) : readDigits? (Nat.toDigits 10 n) = some n := by
  have hdigits := List.all_eq_true.mpr (allDigits_toDigits n)
  rw [readDigits?, if_pos ⟨Nat.toDigits_ne_nil, hdigits⟩, digitsValue_eq_ofDigitChars,
    Nat.ofDigitChars_ten_toDigits]

theorem numeral_of_digits {sign ds : List Char} (hsign : Sign sign) (hne : ds ≠ [])
    (hds : AllDigits ds) : Numeral (sign ++ ds) := by
  have h := Numeral.whole hsign hne hds .none
  rwa [List.append_nil] at h

theorem numeral_nat (n : Nat) : Numeral (toString n).toList := by
  show Numeral n.repr.toList
  rw [Nat.toList_repr]
  exact numeral_of_digits .none Nat.toDigits_ne_nil (allDigits_toDigits n)

theorem toList_toString_int (n : Int) :
    (toString n).toList = (if n < 0 then ['-'] else []) ++ Nat.toDigits 10 n.natAbs := by
  cases n with
  | ofNat n =>
    rw [if_neg (by simp)]
    exact Nat.toList_repr
  | negSucc n =>
    rw [if_pos (by omega)]
    show ("-" ++ (n + 1).repr).toList = _
    rw [String.toList_append, Nat.toList_repr]
    rfl

/-- **Integers are written as numbers.** -/
theorem numeral_int (n : Int) : Numeral (toString n).toList := by
  rw [toList_toString_int]
  have hds := allDigits_toDigits n.natAbs
  split
  · exact numeral_of_digits .minus Nat.toDigits_ne_nil hds
  · exact numeral_of_digits .none Nat.toDigits_ne_nil hds

/-! ### Floating point numbers -/

theorem numeral_of_point {sign ds places : List Char} (hsign : Sign sign)
    (hne : ds ++ places ≠ []) (hds : AllDigits ds) (hplaces : AllDigits places) :
    Numeral (sign ++ (ds ++ '.' :: places)) := by
  have h := Numeral.point hsign hne hds hplaces .none
  rwa [List.append_nil] at h

open Decimal (Layout Digits natDigits)

theorem numeral_magnitude_plain {sign : List Char} (hsign : Sign sign) (d : Digits) :
    Numeral (sign ++ Layout.plain.magnitude d) := by
  have hzero : AllDigits ['0'] := allDigits_replicate 1
  have hds : AllDigits (natDigits d.digits) := allDigits_toDigits d.digits
  have hne : natDigits d.digits ≠ [] := Nat.toDigits_ne_nil
  simp only [Layout.magnitude, Layout.plain, Bool.false_eq_true, if_false, if_true,
    List.append_nil]
  split
  · exact numeral_of_digits hsign (List.cons_ne_nil _ _) hzero
  split
  · exact numeral_of_digits hsign (List.append_ne_nil_of_left_ne_nil hne _)
      (hds.append (allDigits_replicate _))
  split
  · -- the point stands among the digits
    refine numeral_of_point hsign ?_ (hds.take _) (hds.drop _)
    rwa [List.take_append_drop]
  · exact numeral_of_point hsign (List.cons_ne_nil '0' _) hzero
      ((allDigits_replicate _).append hds)

/-- **Finite numbers are written as numbers.** -/
theorem numeral_write_plain {f : Decimal.Format} {bits : Nat} {negative : Bool} {m : Nat} {q : Int}
    (h : f.decode bits = .finite negative m q) :
    Numeral (Layout.plain.write f bits).toList := by
  rw [Layout.write, h]
  dsimp only
  rw [String.toList_ofList]
  split
  · exact numeral_magnitude_plain .minus _
  · exact numeral_magnitude_plain .none _

end SqlDialect.Text
