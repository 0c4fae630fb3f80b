import SqlDialect.Proofs.Text.Numeral
/-!
# Integers as text

The two readers of integers differ in their grammar only where a text begins with a
minus: `readInt?` then reads a negative number and `readNat?` nothing. On every other
text they agree (`readInt?_of_ne`), and what is printed for an integer is read as that
integer (`readInt?_toString`).

Zero is the one natural number that can be spelled with a minus, by zeros alone
(`readInt?_minus_eq_some_iff`). Zeros in front of a natural number leave it as it is
(`digitsValue_padded`).
-/

namespace SqlDialect.Text

theorem readDigits?_eq_some_iff {s : List Char} {n : Nat} :
    readDigits? s = some n ↔ s ≠ [] ∧ AllDigits s ∧ digitsValue s = n := by
  rw [readDigits?, Option.ite_none_right_eq_some, Option.some.injEq, List.all_eq_true, and_assoc]
  rfl

/-! ### Signs -/

/-- A sign is no digit. -/
theorem readDigits?_sign {c : Char} (hc : isDigit c = false) (s : List Char) :
    readDigits? (c :: s) = none := by
  rw [Option.eq_none_iff_forall_ne_some]
  intro n hn
  have hdigit := (readDigits?_eq_some_iff.mp hn).2.1 c (List.mem_cons_self ..)
  rw [hc] at hdigit
  cases hdigit

theorem readNat?_minus (s : List Char) : readNat? ('-' :: s) = none :=
  readDigits?_sign (by decide) s

theorem readNat?_of_ne {s : List Char} (h : s.head? ≠ some '+') : readNat? s = readDigits? s := by
  unfold readNat?
  split
  · exact absurd rfl h
  · rfl

theorem readInt?_minus (s : List Char) :
    readInt? ('-' :: s) = (readDigits? s).map fun n : Nat => -(n : Int) := by
  rw [readInt?]
  cases readDigits? s with
  | none => rfl
  | some n => rfl

/-- **Without a minus both readers agree.** -/
theorem readInt?_of_ne {s : List Char} (h : s.head? ≠ some '-') :
    readInt? s = (readNat? s).map Int.ofNat := by
  unfold readInt?
  split
  · exact absurd rfl h
  · rfl

/-! ### Printed integers -/

theorem head?_toDigits_ne {c : Char} (hc : isDigit c = false) (n : Nat) :
    (Nat.toDigits 10 n).head? ≠ some c := by
  intro h
  have hdigit := allDigits_toDigits n c (List.mem_of_mem_head? h)
  rw [hc] at hdigit
  cases hdigit

/-- **A printed integer is read back.** -/
theorem readInt?_toString (n : Int) : readInt? (toString n).toList = some n := by
  rw [toList_toString_int]
  split
  · rw [List.singleton_append, readInt?_minus, readDigits?_toDigits, Option.map_some]
    congr 1
    omega
  · rw [List.nil_append, readInt?_of_ne (head?_toDigits_ne (by decide) _),
      readNat?_of_ne (head?_toDigits_ne (by decide) _), readDigits?_toDigits, Option.map_some]
    exact congrArg some (Int.natAbs_of_nonneg (by omega))

/-- A printed integer begins with a minus exactly if it is negative. -/
theorem head?_toString_int (n : Int) : (toString n).toList.head? = some '-' ↔ n < 0 := by
  rw [toList_toString_int]
  split
  · rename_i hn
    exact iff_of_true rfl hn
  · rename_i hn
    exact iff_of_false (head?_toDigits_ne (by decide) _) hn

/-! ### Zeros -/

/-- A number with a digit other than zero, or behind another number, is not zero. -/
theorem ofDigitChars_eq_zero {ds : List Char} {n : Nat} (hds : AllDigits ds)
    (h : Nat.ofDigitChars 10 ds n = 0) : n = 0 ∧ ∀ d ∈ ds, d = '0' := by
  induction ds generalizing n with
  | nil => exact ⟨h, List.forall_mem_nil _⟩
  | cons d ds ih =>
    obtain ⟨hd, hds⟩ := List.forall_mem_cons.mp hds
    rw [Nat.ofDigitChars_cons] at h
    obtain ⟨hn, hzeros⟩ := ih hds h
    rw [isDigit, Bool.and_eq_true, decide_eq_true_eq, decide_eq_true_eq] at hd
    have hle : '0'.toNat ≤ d.toNat := Char.le_def.mp hd.1
    refine ⟨by omega, List.forall_mem_cons.mpr ⟨Char.toNat_inj.mp ?_, hzeros⟩⟩
    omega

theorem digitsValue_replicate_zero (n : Nat) : digitsValue (List.replicate n '0') = 0 := by
  rw [digitsValue_eq_ofDigitChars]
  induction n with
  | zero => rfl
  | succ n ih => rw [List.replicate_succ, Nat.ofDigitChars_cons]; exact ih

/-- **Behind a minus only zeros spell a number that is not negative**, and it is zero. -/
theorem readInt?_minus_eq_some_iff {s : List Char} {n : Int} (hn : 0 ≤ n) :
    readInt? ('-' :: s) = some n ↔ n = 0 ∧ ∃ k, s = List.replicate (k + 1) '0' := by
  rw [readInt?_minus, Option.map_eq_some_iff]
  constructor
  · rintro ⟨m, hm, hmn⟩
    obtain ⟨hne, hds, hvalue⟩ := readDigits?_eq_some_iff.mp hm
    have hm0 : m = 0 := by omega
    rw [digitsValue_eq_ofDigitChars, hm0] at hvalue
    have hzeros := (ofDigitChars_eq_zero hds hvalue).2
    obtain ⟨k, hk⟩ := Nat.exists_eq_succ_of_ne_zero (mt List.length_eq_zero_iff.mp hne)
    exact ⟨by omega, k, List.eq_replicate_iff.mpr ⟨hk, hzeros⟩⟩
  · rintro ⟨rfl, k, rfl⟩
    refine ⟨0, readDigits?_eq_some_iff.mpr ⟨?_, allDigits_replicate _, ?_⟩, rfl⟩
    · exact List.cons_ne_nil _ _
    · exact digitsValue_replicate_zero _

/-! ### Zeros in front -/

theorem allDigits_padded (width n : Nat) : AllDigits (padded width n) :=
  (allDigits_replicate _).append (allDigits_toDigits n)

theorem le_length_padded (width n : Nat) : width ≤ (padded width n).length := by
  rw [padded, List.length_append, List.length_replicate]
  omega

theorem length_padded {width n : Nat} (hwidth : 0 < width) (h : n < Decimal.tenPow width) :
    (padded width n).length = width := by
  have hle : (Nat.toDigits 10 n).length ≤ width :=
    (Nat.length_toDigits_le_iff (by decide) hwidth).mpr h
  rw [padded, List.length_append, List.length_replicate]
  omega

/-- **Zeros in front make no difference** to the number. -/
theorem digitsValue_padded (width n : Nat) : digitsValue (padded width n) = n := by
  have hzeros := digitsValue_replicate_zero (width - (Nat.toDigits 10 n).length)
  rw [digitsValue_eq_ofDigitChars] at hzeros
  rw [digitsValue_eq_ofDigitChars, padded, Nat.ofDigitChars_append, hzeros,
    Nat.ofDigitChars_ten_toDigits]

end SqlDialect.Text
