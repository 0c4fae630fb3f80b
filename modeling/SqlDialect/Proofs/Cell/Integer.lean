import SqlDialect.Cell.Literal
import SqlDialect.Proofs.Text.Integer
/-!
# Integers in cells

A cell stands for an integer if it holds one in a word of any width or is a string that
spells one (`value?`). Its signed reading is this integer where it fits a signed word
(`signed?_eq_some_iff`), and its unsigned reading is this integer where it fits an
unsigned one (`unsigned?_eq_some_iff`). So the two agree on what fits both words, but for
one sort of cell: a string of a minus and zeros is zero for the first reading and nothing
for the second (`signed?_iff_unsigned?`).

A Boolean column reads an integer as a signed word. An integer cell is written there as a
truth value exactly if it fits one, and a greater one is quoted (`literal_bool_iff`).
-/

namespace SqlDialect.Cell

/-! ### The integer of a cell -/

def integer? : Cell → Option Int
  | int8 n => some n.toInt
  | int16 n => some n.toInt
  | int32 n => some n.toInt
  | int64 n => some n.toInt
  | uint64 n => some n.toNat
  | _ => none

/-- The integer that a cell stands for: its value, or what its text spells. -/
def value? : Cell → Option Int
  | string s => Text.readInt? s.toList
  | c => c.integer?

def signed? (c : Cell) : Option Int := c.int64?.map Int64.toInt

def unsigned? (c : Cell) : Option Int := c.uint64?.map fun k => (k.toNat : Int)

def IsMinusZero (c : Cell) : Prop :=
  ∃ k, c = string (String.ofList ('-' :: List.replicate (k + 1) '0'))

theorem value?_of_integer {c : Cell} {n : Int} (h : c.integer? = some n) : c.value? = some n := by
  cases c with
  | string s => cases h
  | _ => exact h

theorem text_of_integer {c : Cell} {n : Int} (h : c.integer? = some n) : c.text = toString n := by
  cases c with
  | int8 m | int16 m | int32 m | int64 m | uint64 m => obtain rfl := Option.some.inj h; rfl
  | _ => cases h

theorem integer_bounds {c : Cell} {n : Int} (h : c.integer? = some n) :
    -0x8000000000000000 ≤ n ∧ n < 0x10000000000000000 := by
  cases c with
  | int8 m => obtain rfl := Option.some.inj h; have := m.le_toInt; have := m.toInt_lt; omega
  | int16 m => obtain rfl := Option.some.inj h; have := m.le_toInt; have := m.toInt_lt; omega
  | int32 m => obtain rfl := Option.some.inj h; have := m.le_toInt; have := m.toInt_lt; omega
  | int64 m => obtain rfl := Option.some.inj h; have := m.le_toInt; have := m.toInt_lt; omega
  | uint64 m => obtain rfl := Option.some.inj h; have := m.toNat_lt; omega
  | _ => cases h

/-! ### Words -/

theorem toInt64?_eq_some_iff {n : Int} {k : Int64} : toInt64? n = some k ↔ k.toInt = n := by
  have hlow := k.le_toInt
  have hhigh := k.toInt_lt
  unfold toInt64?
  split
  · rename_i hn
    have hofInt : (Int64.ofInt n).toInt = n := Int64.toInt_ofInt_of_le hn.1 hn.2
    rw [Option.some.injEq, ← Int64.toInt_inj, hofInt, eq_comm]
  · rename_i hn
    refine iff_of_false (by simp) fun h => hn ?_
    omega

theorem toUInt64?_eq_some_iff {n : Int} {k : UInt64} :
    toUInt64? n = some k ↔ (k.toNat : Int) = n := by
  have hhigh := k.toNat_lt
  unfold toUInt64?
  split
  · rename_i hn
    have hsize : n.toNat < UInt64.size := by
      show n.toNat < 0x10000000000000000
      omega
    have hofNat : (UInt64.ofNat n.toNat).toNat = n.toNat := UInt64.toNat_ofNat_of_lt' hsize
    rw [Option.some.injEq, ← UInt64.toNat_inj, hofNat]
    omega
  · rename_i hn
    refine iff_of_false (by simp) fun h => hn ⟨?_, ?_⟩ <;> omega

theorem map_toInt64?_eq_some_iff {n m : Int} : (toInt64? n).map Int64.toInt = some m ↔
    n = m ∧ -0x8000000000000000 ≤ m ∧ m < 0x8000000000000000 := by
  rw [Option.map_eq_some_iff]
  constructor
  · rintro ⟨k, hk, rfl⟩
    exact ⟨(toInt64?_eq_some_iff.mp hk).symm, k.le_toInt, k.toInt_lt⟩
  · rintro ⟨rfl, hn⟩
    exact ⟨Int64.ofInt n, if_pos hn, Int64.toInt_ofInt_of_le hn.1 hn.2⟩

theorem map_toUInt64?_eq_some_iff {n m : Int} :
    (toUInt64? n).map (fun k => (k.toNat : Int)) = some m ↔
      n = m ∧ 0 ≤ m ∧ m < 0x10000000000000000 := by
  rw [Option.map_eq_some_iff]
  constructor
  · rintro ⟨k, hk, rfl⟩
    exact ⟨(toUInt64?_eq_some_iff.mp hk).symm, Int.natCast_nonneg _, by have := k.toNat_lt; omega⟩
  · rintro ⟨rfl, hn⟩
    exact ⟨UInt64.ofNat n.toNat, if_pos hn, toUInt64?_eq_some_iff.mp (if_pos hn)⟩

/-! ### The two readings -/

theorem int64?_of_integer {c : Cell} {n : Int} (h : c.integer? = some n) :
    c.int64? = toInt64? n := by
  have hword (k : Int64) : some k = toInt64? k.toInt := (toInt64?_eq_some_iff.mpr rfl).symm
  cases c with
  | int8 m => obtain rfl := Option.some.inj h; rw [int64?, hword, Int8.toInt_toInt64]
  | int16 m => obtain rfl := Option.some.inj h; rw [int64?, hword, Int16.toInt_toInt64]
  | int32 m => obtain rfl := Option.some.inj h; rw [int64?, hword, Int32.toInt_toInt64]
  | int64 m => obtain rfl := Option.some.inj h; rw [int64?, hword]
  | uint64 m => obtain rfl := Option.some.inj h; rw [int64?]
  | _ => cases h

theorem uint64?_of_integer {c : Cell} {n : Int} (h : c.integer? = some n) :
    c.uint64? = toUInt64? n := by
  cases c with
  | int8 m => obtain rfl := Option.some.inj h; rw [← Int8.toInt_toInt64]; rfl
  | int16 m => obtain rfl := Option.some.inj h; rw [← Int16.toInt_toInt64]; rfl
  | int32 m => obtain rfl := Option.some.inj h; rw [← Int32.toInt_toInt64]; rfl
  | int64 m => obtain rfl := Option.some.inj h; rfl
  | uint64 m => obtain rfl := Option.some.inj h; exact (toUInt64?_eq_some_iff.mpr rfl).symm
  | _ => cases h

theorem int64?_eq (c : Cell) : c.int64? = c.value?.bind toInt64? := by
  cases hn : c.integer? with
  | some n => rw [int64?_of_integer hn, value?_of_integer hn, Option.bind_some]
  | none =>
    cases c with
    | int8 m | int16 m | int32 m | int64 m | uint64 m => cases hn
    | _ => rfl

theorem isMinusZero_string_iff {s : String} :
    (string s).IsMinusZero ↔ ∃ k, s.toList = '-' :: List.replicate (k + 1) '0' := by
  constructor
  · rintro ⟨k, hk⟩
    rw [Cell.string.inj hk, String.toList_ofList]
    exact ⟨k, rfl⟩
  · rintro ⟨k, hk⟩
    exact ⟨k, by rw [← hk, String.ofList_toList]⟩

/-- Behind a minus the unsigned reading finds nothing, and only there the two grammars
differ. -/
theorem readNat?_bind_eq {s : List Char} (hs : ∀ k, s ≠ '-' :: List.replicate (k + 1) '0') :
    ((Text.readNat? s).bind fun n => toUInt64? n) = (Text.readInt? s).bind toUInt64? := by
  by_cases hminus : s.head? = some '-'
  · obtain ⟨t, rfl⟩ := List.head?_eq_some_iff.mp hminus
    rw [Text.readNat?_minus, Option.bind_none, eq_comm, Option.bind_eq_none_iff]
    intro n hn
    refine if_neg fun h => ?_
    obtain ⟨-, k, rfl⟩ := (Text.readInt?_minus_eq_some_iff h.1).mp hn
    exact hs k rfl
  · rw [Text.readInt?_of_ne hminus]
    cases Text.readNat? s with
    | none => rfl
    | some n => rfl

theorem uint64?_eq {c : Cell} (hc : ¬c.IsMinusZero) : c.uint64? = c.value?.bind toUInt64? := by
  cases hn : c.integer? with
  | some n => rw [uint64?_of_integer hn, value?_of_integer hn, Option.bind_some]
  | none =>
    cases c with
    | int8 m | int16 m | int32 m | int64 m | uint64 m => cases hn
    | string s => exact readNat?_bind_eq fun k hk => hc (isMinusZero_string_iff.mpr ⟨k, hk⟩)
    | _ => rfl

theorem IsMinusZero.int64?_eq {c : Cell} (h : c.IsMinusZero) : c.int64? = some 0 := by
  obtain ⟨k, rfl⟩ := h
  have hzero := (Text.readInt?_minus_eq_some_iff (Int.le_refl 0)).mpr ⟨rfl, k, rfl⟩
  rw [int64?, String.toList_ofList, hzero, Option.bind_some, toInt64?_eq_some_iff]
  rfl

theorem IsMinusZero.uint64?_eq {c : Cell} (h : c.IsMinusZero) : c.uint64? = none := by
  obtain ⟨k, rfl⟩ := h
  rw [uint64?, String.toList_ofList, Text.readNat?_minus, Option.bind_none]

/-- A reading that keeps what fits. -/
theorem bind_eq_some_iff_of_fits {f : Int → Option Int} {fits : Int → Prop}
    (hf : ∀ n m, f n = some m ↔ n = m ∧ fits m) {x : Option Int} {n : Int} :
    x.bind f = some n ↔ x = some n ∧ fits n := by
  rw [Option.bind_eq_some_iff]
  constructor
  · rintro ⟨m, hm, hn⟩
    obtain ⟨rfl, hfits⟩ := (hf m n).mp hn
    exact ⟨hm, hfits⟩
  · rintro ⟨hn, hfits⟩
    exact ⟨n, hn, (hf n n).mpr ⟨rfl, hfits⟩⟩

/-- **The signed reading** is the integer of the cell, if it fits a signed word. -/
theorem signed?_eq_some_iff {c : Cell} {n : Int} : c.signed? = some n ↔
    c.value? = some n ∧ -0x8000000000000000 ≤ n ∧ n < 0x8000000000000000 := by
  rw [signed?, int64?_eq, Option.map_bind]
  exact bind_eq_some_iff_of_fits fun _ _ => map_toInt64?_eq_some_iff

/-- **The unsigned reading** is the integer of the cell, if it fits an unsigned word and is
not spelled as a zero with a minus. -/
theorem unsigned?_eq_some_iff {c : Cell} {n : Int} (hc : ¬c.IsMinusZero) :
    c.unsigned? = some n ↔ c.value? = some n ∧ 0 ≤ n ∧ n < 0x10000000000000000 := by
  rw [unsigned?, uint64?_eq hc, Option.map_bind]
  exact bind_eq_some_iff_of_fits fun _ _ => map_toUInt64?_eq_some_iff

/-- **Where the two readings agree.** A cell that is no string of a minus and zeros is read
as an integer that fits both words by both readings or by none. Such a string is zero for
the signed reading and nothing for the unsigned one. What is negative for the signed
reading is nothing for the unsigned one, whatever the cell. -/
theorem signed?_iff_unsigned? (c : Cell) (n : Int) :
    (0 ≤ n → n < 0x8000000000000000 → ¬c.IsMinusZero →
        (c.signed? = some n ↔ c.unsigned? = some n)) ∧
      (c.IsMinusZero → c.signed? = some 0 ∧ c.unsigned? = none) ∧
      (n < 0 → c.signed? = some n → c.unsigned? = none) := by
  refine ⟨fun hlow hhigh hc => ?_, fun hc => ?_, fun hn hsigned => ?_⟩
  · rw [signed?_eq_some_iff, unsigned?_eq_some_iff hc]
    refine and_congr_right fun _ => iff_of_true ⟨?_, hhigh⟩ ⟨hlow, ?_⟩ <;> omega
  · rw [signed?, unsigned?, hc.int64?_eq, hc.uint64?_eq]
    exact ⟨rfl, rfl⟩
  · rw [Option.eq_none_iff_forall_ne_some]
    intro m hm
    by_cases hc : c.IsMinusZero
    · rw [unsigned?, hc.uint64?_eq] at hm
      cases hm
    · have hvalue := (signed?_eq_some_iff.mp hsigned).1
      obtain ⟨hvalue', hnonneg, -⟩ := (unsigned?_eq_some_iff hc).mp hm
      rw [hvalue, Option.some.injEq] at hvalue'
      omega

/-- A number with a plus at the end of the signed range. -/
theorem signed?_iff_unsigned?_of_plus :
    (string "+9223372036854775807").signed? = some 0x7FFFFFFFFFFFFFFF ∧
      (string "+9223372036854775807").unsigned? = some 0x7FFFFFFFFFFFFFFF := by
  have hsigned : (string "+9223372036854775807").signed? = some 0x7FFFFFFFFFFFFFFF := by
    decide +kernel
  have hc : ¬(string "+9223372036854775807").IsMinusZero := by
    rw [isMinusZero_string_iff]
    rintro ⟨k, hk⟩
    have hhead := congrArg List.head? hk
    rw [List.head?_cons] at hhead
    exact absurd hhead (by decide)
  exact ⟨hsigned, ((signed?_iff_unsigned? _ _).1 (by decide) (by decide) hc).mp hsigned⟩

/-- A zero with a minus is read by one of the readings only. -/
theorem zero_of_minus :
    (string "-0").signed? = some 0 ∧ (string "-0").unsigned? = none ∧
      ¬∀ (c : Cell) (n : Int), 0 ≤ n → n < 0x8000000000000000 →
        (c.signed? = some n ↔ c.unsigned? = some n) := by
  have hsigned : (string "-0").signed? = some 0 := by decide +kernel
  have hunsigned : (string "-0").unsigned? = none := by decide +kernel
  refine ⟨hsigned, hunsigned, fun h => ?_⟩
  have hboth := (h (string "-0") 0 (by decide) (by decide)).mp hsigned
  rw [hunsigned] at hboth
  cases hboth

/-! ### Boolean columns -/

theorem truth?_of_integer {c : Cell} {n : Int} (hn : c.integer? = some n) :
    c.truth? = (toInt64? n).map (· != 0) := by
  rw [← int64?_of_integer hn]
  cases c with
  | int8 m | int16 m | int32 m | int64 m | uint64 m => rfl
  | _ => cases hn

theorem quoted_of_integer (style : LiteralStyle) {c : Cell} {n : Int}
    (hn : c.integer? = some n) : c.quoted style = style.quote (toString n) := by
  rw [← text_of_integer hn]
  cases c with
  | int8 m | int16 m | int32 m | int64 m | uint64 m => rfl
  | _ => cases hn

theorem literal_bool_of_integer (style : LiteralStyle) {c : Cell} {n : Int}
    (hn : c.integer? = some n) : c.literal .bool style = c.boolean style := by
  cases c with
  | int8 m | int16 m | int32 m | int64 m | uint64 m =>
    rw [literal, scalar, if_neg (by decide), if_pos rfl]
    all_goals simp
  | _ => cases hn

theorem toInt64?_map_ne_zero {n : Int} (hlow : -0x8000000000000000 ≤ n)
    (hhigh : n < 0x8000000000000000) : (toInt64? n).map (· != 0) = some (n != 0) := by
  have hofInt : (Int64.ofInt n).toInt = n := Int64.toInt_ofInt_of_le hlow hhigh
  have hzero : Int64.ofInt n = 0 ↔ n = 0 := by
    rw [← Int64.toInt_inj, hofInt]
    rfl
  rw [toInt64?, if_pos ⟨hlow, hhigh⟩, Option.map_some, Option.some.injEq, Bool.eq_iff_iff,
    bne_iff_ne, bne_iff_ne, Ne, hzero]

/-- **When an integer in a Boolean column is a truth value.** An integer cell is written as
the truth value that its integer is not zero exactly if the integer fits a signed word, or
if the word of the style for truth should be the integer between quotes. For
every other integer it is the integer between quotes that is written. -/
theorem literal_bool_iff (style : LiteralStyle) {c : Cell} {n : Int}
    (hn : c.integer? = some n) :
    (c.literal .bool style = style.truth (n != 0) ↔
        n < 0x8000000000000000 ∨ style.yes = style.quote (toString n)) ∧
      (0x8000000000000000 ≤ n → c.literal .bool style = style.quote (toString n)) := by
  rw [literal_bool_of_integer style hn, boolean, truth?_of_integer hn]
  by_cases hfits : n < 0x8000000000000000
  · rw [toInt64?_map_ne_zero (integer_bounds hn).1 hfits]
    exact ⟨iff_of_true rfl (Or.inl hfits), fun h => absurd hfits (by omega)⟩
  · have hnone : toInt64? n = none := if_neg fun h => hfits h.2
    have htrue : (n != 0) = true := by
      rw [bne_iff_ne]
      omega
    rw [hnone, Option.map_none, htrue]
    dsimp only
    rw [quoted_of_integer style hn, or_iff_right hfits]
    exact ⟨eq_comm, fun _ => rfl⟩

/-- The least integer and the greatest of a signed word are true, and zero is false. -/
theorem literal_bool_of_bounds :
    (int64 (-0x8000000000000000)).literal .bool LiteralStyle.ansi = "TRUE" ∧
      (uint64 0x7FFFFFFFFFFFFFFF).literal .bool LiteralStyle.ansi = "TRUE" ∧
      (uint64 0).literal .bool LiteralStyle.ansi = "FALSE" := by
  have hlow : (int64 (-0x8000000000000000)).integer? = some (-0x8000000000000000) := by decide
  have hhigh : (uint64 0x7FFFFFFFFFFFFFFF).integer? = some 0x7FFFFFFFFFFFFFFF := by decide
  have hzero : (uint64 0).integer? = some 0 := by decide
  exact ⟨(literal_bool_iff LiteralStyle.ansi hlow).1.mpr (Or.inl (by decide)),
    (literal_bool_iff LiteralStyle.ansi hhigh).1.mpr (Or.inl (by decide)),
    (literal_bool_iff LiteralStyle.ansi hzero).1.mpr (Or.inl (by decide))⟩

/-- A greater integer is not zero and yet no truth value. -/
theorem quoted_in_bool :
    (uint64 0x8000000000000000).literal .bool LiteralStyle.ansi = "'9223372036854775808'" ∧
      ¬∀ (style : LiteralStyle) (c : Cell) (n : Int), c.integer? = some n →
        c.literal .bool style = style.truth (n != 0) := by
  have hquoted : (uint64 0x8000000000000000).literal .bool LiteralStyle.ansi =
      "'9223372036854775808'" := by decide +kernel
  refine ⟨hquoted, fun h => ?_⟩
  have htruth := h LiteralStyle.ansi (uint64 0x8000000000000000) 0x8000000000000000 (by decide)
  rw [hquoted] at htruth
  exact absurd htruth (by decide)

end SqlDialect.Cell
