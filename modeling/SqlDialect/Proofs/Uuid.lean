import SqlDialect.Uuid
/-!
# Identifiers of 128 bits read back

`Uuid.read?_text`: the written form of an identifier is read as that identifier. Its 36 characters
are too many for the form without hyphens and too few for one in braces or with a name in front,
so the groups are cut as they were written (`unhyphenate?_hyphenate`), and the digits have the
value they were taken from (`hexDigitsValue?_hexDigits`).
-/

namespace SqlDialect.Uuid

open Text (hexDigit hexValue? hexDigitsValue?)

/-! ### Digits -/

theorem length_hexDigits (count n : Nat) : (hexDigits count n).length = count := by
  induction count generalizing n with
  | zero => rfl
  | succ count ih => rw [hexDigits, List.length_append, ih, List.length_singleton]

theorem hexValue?_hexDigit : ∀ n < 16, hexValue? (hexDigit false n) = some n := by decide

/-- Digits have the value they were taken from, as far as there are enough of them. -/
theorem hexDigitsValue?_hexDigits (count n : Nat) :
    hexDigitsValue? (hexDigits count n) = some (n % Nat.pow 16 count) := by
  induction count generalizing n with
  | zero =>
    show some 0 = some (n % 1)
    rw [Nat.mod_one]
  | succ count ih =>
    have hfront := ih (n / 16)
    have hpow : Nat.pow 16 (count + 1) = 16 * Nat.pow 16 count := Nat.mul_comm _ _
    have hvalue : n / 16 % Nat.pow 16 count * 16 + n % 16 = n % Nat.pow 16 (count + 1) := by
      rw [hpow, Nat.mod_mul]
      omega
    unfold hexDigitsValue? at hfront ⊢
    rw [hexDigits, List.foldlM_append, hfront]
    show (hexValue? (hexDigit false (n % 16))).map _ >>= _ = _
    rw [hexValue?_hexDigit _ (Nat.mod_lt n (by decide))]
    exact congrArg some hvalue

/-! ### Groups -/

/-- How many digits groups hold together. -/
def total : List Nat → Nat
  | [] => 0
  | n :: ns => n + total ns

/-- **Groups are cut as they were written.** -/
theorem unhyphenate?_hyphenate {ns : List Nat} {ds : List Char} (h : ds.length = total ns) :
    unhyphenate? ns (hyphenate ns ds) = some ds := by
  induction ns generalizing ds with
  | nil =>
    rw [List.eq_nil_of_length_eq_zero h]
    rfl
  | cons n ns ih =>
    rw [total] at h
    cases ns with
    | nil =>
      rw [total, Nat.add_zero] at h
      rw [hyphenate, unhyphenate?, List.take_of_length_le (Nat.le_of_eq h), if_pos h]
    | cons m ns =>
      have hfront : (ds.take n).length = n := by
        rw [List.length_take]
        omega
      have hback : (ds.drop n).length = total (m :: ns) := by
        rw [List.length_drop]
        omega
      rw [hyphenate, unhyphenate?, List.drop_left' hfront, List.take_left' hfront]
      · show (unhyphenate? (m :: ns) (hyphenate (m :: ns) (ds.drop n))).map _ = _
        rw [ih hback, Option.map_some, List.take_append_drop]
      · exact List.cons_ne_nil m ns
      · exact List.cons_ne_nil m ns

theorem length_hyphenate {ds : List Char} (h : ds.length = 32) :
    (hyphenate groups ds).length = 36 := by
  simp [hyphenate, groups, h]

/-- **A written identifier is read back.** -/
theorem read?_text (u : Uuid) : read? u.text = some u := by
  have hds := length_hexDigits 32 u.value.toNat
  have hlength := length_hyphenate hds
  have hunwrap : unwrap? (hyphenate groups (hexDigits 32 u.value.toNat)) =
      hyphenate groups (hexDigits 32 u.value.toNat) := by
    rw [unwrap?, if_neg (by omega), if_neg (by omega)]
  have hvalue : u.value.toNat % Nat.pow 16 32 = u.value.toNat := Nat.mod_eq_of_lt u.value.isLt
  rw [read?, text, String.toList_ofList]
  simp only [hlength]
  rw [if_neg (by decide), hunwrap, unhyphenate?_hyphenate hds, Option.bind_some, ofDigits?,
    if_pos hds, hexDigitsValue?_hexDigits, hvalue, Option.map_some, BitVec.ofNat_toNat,
    BitVec.setWidth_eq]

end SqlDialect.Uuid
