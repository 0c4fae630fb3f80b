import SqlDialect.ClickHouse.JsonRows
import SqlDialect.Proofs.Cell.Integer
/-!
# Counters in answers

A server writes a 64-bit integer as a JSON number or, by a setting, as a JSON string of its
digits. The cells of the two differ: a signed or an unsigned word for the number, a text for
the string. `counters_decode_alike`: both are read as the same integer, so a row gives the
same flag and the same count for them.

Each form is a `Spelling` of the integer: what the decoders of a row look at in a cell is
the integer that the cell stands for and, where a flag is refused, the text shown for it.
-/

namespace SqlDialect

/-- A cell that stands for an integer and is shown as this integer is printed. -/
structure Cell.Spelling (c : Cell) (n : Int) : Prop where
  value : c.value? = some n
  text : c.text = toString n

namespace Cell.Spelling

variable {c : Cell} {n : Int}

theorem of_integer (h : c.integer? = some n) : c.Spelling n :=
  ⟨value?_of_integer h, text_of_integer h⟩

theorem of_string (n : Int) : (string (toString n)).Spelling n :=
  ⟨Text.readInt?_toString n, rfl⟩

/-- No integer is printed as a zero with a minus. -/
theorem not_isMinusZero (h : c.Spelling n) : ¬c.IsMinusZero := by
  intro hc
  have hzero : c.signed? = some 0 := by
    rw [signed?, hc.int64?_eq]
    rfl
  have hn : n = 0 := by
    have hvalue := (signed?_eq_some_iff.mp hzero).1
    rwa [h.value, Option.some.injEq] at hvalue
  obtain ⟨k, rfl⟩ := hc
  have htext : (toString n).toList = '-' :: List.replicate (k + 1) '0' := by
    rw [← h.text, Cell.text, String.toList_ofList]
  have hminus := (Text.head?_toString_int n).mp (by rw [htext]; rfl)
  omega

theorem signed?_eq (h : c.Spelling n) (hlow : -0x8000000000000000 ≤ n) :
    c.signed? = if n < 0x8000000000000000 then some n else none := by
  ext m
  rw [signed?_eq_some_iff, h.value, Option.some.injEq, Option.ite_none_right_eq_some,
    Option.some.injEq]
  constructor
  · rintro ⟨rfl, -, hhigh⟩
    exact ⟨hhigh, rfl⟩
  · rintro ⟨hhigh, rfl⟩
    exact ⟨rfl, hlow, hhigh⟩

theorem unsigned?_eq (h : c.Spelling n) (hhigh : n < 0x10000000000000000) :
    c.unsigned? = if 0 ≤ n then some n else none := by
  ext m
  rw [unsigned?_eq_some_iff h.not_isMinusZero, h.value, Option.some.injEq,
    Option.ite_none_right_eq_some, Option.some.injEq]
  constructor
  · rintro ⟨rfl, hlow, -⟩
    exact ⟨hlow, rfl⟩
  · rintro ⟨hlow, rfl⟩
    exact ⟨rfl, hlow, hhigh⟩

theorem int64?_eq_some_iff (h : c.Spelling n) {k : Int64} : c.int64? = some k ↔ n = k.toInt := by
  rw [int64?_eq, h.value, Option.bind_some, toInt64?_eq_some_iff, eq_comm]

theorem uint64?_eq (h : c.Spelling n) : c.uint64? = toUInt64? n := by
  rw [Cell.uint64?_eq h.not_isMinusZero, h.value, Option.bind_some]

/-! ### Decoders -/

variable {r : Row} {name : String}

theorem decodeFlag_eq (h : c.Spelling n) (hr : r.field? name = some c) :
    r.decodeFlag name = if n = 0 then .ok false else if n = 1 then .ok true
      else .error (.decode name "0 or 1" (toString n)) := by
  have hzero : c.int64? = some 0 ↔ n = 0 := h.int64?_eq_some_iff
  have hone : c.int64? = some 1 ↔ n = 1 := h.int64?_eq_some_iff
  have hvalue := h.value
  rw [← h.text, Row.decodeFlag, hr]
  simp only [← hzero, ← hone]
  cases c with
  | null => cases hvalue
  | bool b => cases hvalue
  | _ => rfl

theorem decodeCount?_of_nonneg (h : c.Spelling n) (hr : r.field? name = some c) {k : UInt64}
    (hk : (k.toNat : Int) = n) : r.decodeCount? name = .ok (some k) := by
  have hvalue := h.value
  have hcount : c.uint64? = some k := h.uint64?_eq.trans (toUInt64?_eq_some_iff.mpr hk)
  rw [Row.decodeCount?, hr]
  cases c with
  | null => cases hvalue
  | _ => simp only [hcount]

theorem decodeCount?_of_neg (h : c.Spelling n) (hr : r.field? name = some c) (hn : n < 0) :
    r.decodeCount? name = .error (.decode name "unsigned integer" c.kind) := by
  have hvalue := h.value
  have hcount : c.uint64? = none := h.uint64?_eq.trans (if_neg fun hle => by omega)
  rw [Row.decodeCount?, hr]
  cases c with
  | null => cases hvalue
  | _ => simp only [hcount]

end Cell.Spelling

namespace ClickHouse

/-! ### The two forms -/

theorem integer?_cellOfJson {n : Int} (hlow : -0x8000000000000000 ≤ n)
    (hhigh : n < 0x10000000000000000) : (cellOfJson (.int n)).integer? = some n := by
  rw [Json.int, cellOfJson]
  split
  · rename_i hn
    exact congrArg some (Int64.toInt_ofInt_of_le hlow hn)
  · rename_i hn
    have hword : (UInt64.ofNat n.toNat).toNat = n.toNat := UInt64.toNat_ofNat_of_lt' (by
      show n.toNat < 0x10000000000000000
      omega)
    rw [Cell.integer?, hword]
    exact congrArg some (Int.toNat_of_nonneg (by omega))

theorem kind_cellOfJson {n : Int} (hn : n < 0) : (cellOfJson (.int n)).kind = "integer" := by
  rw [Json.int, cellOfJson, if_pos (by omega)]
  rfl

theorem spelling_number {n : Int} (hlow : -0x8000000000000000 ≤ n)
    (hhigh : n < 0x10000000000000000) : (cellOfJson (.int n)).Spelling n :=
  .of_integer (integer?_cellOfJson hlow hhigh)

theorem spelling_text (n : Int) : (cellOfJson (.string (toString n))).Spelling n := by
  rw [cellOfJson]
  exact .of_string n

/-- **A counter is decoded alike with quotes and without.** Let an integer fit 64 bits, with
a sign or without. The cells of the JSON number and of the JSON string of its digits have
the same readings: the integer wherever it fits the word. A row that holds the one and a row
that holds the other give the same flag or the same error for it. They give the same count
if the integer is not negative, and else an error that expected an unsigned integer in this
column and tells which sort of cell was found. -/
theorem counters_decode_alike {n : Int} (hlow : -0x8000000000000000 ≤ n)
    (hhigh : n < 0x10000000000000000) {bare quoted : Row} {name : String}
    (hbare : bare.field? name = some (cellOfJson (.int n)))
    (hquoted : quoted.field? name = some (cellOfJson (.string (toString n)))) :
    ((cellOfJson (.int n)).signed? = if n < 0x8000000000000000 then some n else none) ∧
      ((cellOfJson (.int n)).unsigned? = if 0 ≤ n then some n else none) ∧
      (cellOfJson (.string (toString n))).int64? = (cellOfJson (.int n)).int64? ∧
      (cellOfJson (.string (toString n))).uint64? = (cellOfJson (.int n)).uint64? ∧
      (bare.decodeFlag name = if n = 0 then .ok false else if n = 1 then .ok true
        else .error (.decode name "0 or 1" (toString n))) ∧
      quoted.decodeFlag name = bare.decodeFlag name ∧
      (0 ≤ n → ∃ k : UInt64, (k.toNat : Int) = n ∧ bare.decodeCount? name = .ok (some k) ∧
        quoted.decodeCount? name = .ok (some k)) ∧
      (n < 0 →
        bare.decodeCount? name = .error (.decode name "unsigned integer" "integer") ∧
        quoted.decodeCount? name = .error (.decode name "unsigned integer" "string")) := by
  have hnumber := spelling_number hlow hhigh
  have htext := spelling_text n
  refine ⟨hnumber.signed?_eq hlow, hnumber.unsigned?_eq hhigh, ?_, ?_,
    hnumber.decodeFlag_eq hbare, ?_, fun hn => ?_, fun hn => ⟨?_, ?_⟩⟩
  · ext k
    rw [htext.int64?_eq_some_iff, hnumber.int64?_eq_some_iff]
  · rw [htext.uint64?_eq, hnumber.uint64?_eq]
  · rw [htext.decodeFlag_eq hquoted, hnumber.decodeFlag_eq hbare]
  · have hword : ((UInt64.ofNat n.toNat).toNat : Int) = n :=
      Cell.toUInt64?_eq_some_iff.mp (if_pos ⟨hn, hhigh⟩)
    exact ⟨UInt64.ofNat n.toNat, hword, hnumber.decodeCount?_of_nonneg hbare hword,
      htext.decodeCount?_of_nonneg hquoted hword⟩
  · rw [hnumber.decodeCount?_of_neg hbare hn, kind_cellOfJson hn]
  · rw [htext.decodeCount?_of_neg hquoted hn, cellOfJson]
    rfl

/-- The greatest integer of 64 bits, which fits no signed word, and the integer below zero. -/
theorem counters_decode_alike_of_bounds :
    (Row.mk ["c"] [cellOfJson (.int 0xFFFFFFFFFFFFFFFF)]).decodeCount? "c" =
        (Row.mk ["c"] [cellOfJson (.string "18446744073709551615")]).decodeCount? "c" ∧
      (Row.mk ["c"] [cellOfJson (.string "18446744073709551615")]).decodeFlag "c" =
        .error (.decode "c" "0 or 1" "18446744073709551615") ∧
      (Row.mk ["c"] [cellOfJson (.string "-1")]).decodeCount? "c" =
        .error (.decode "c" "unsigned integer" "string") := by
  have hgreatest := @counters_decode_alike 0xFFFFFFFFFFFFFFFF (by decide) (by decide)
    ⟨["c"], [cellOfJson (.int 0xFFFFFFFFFFFFFFFF)]⟩
    ⟨["c"], [cellOfJson (.string "18446744073709551615")]⟩ "c" rfl rfl
  have hnegative := @counters_decode_alike (-1) (by decide) (by decide)
    ⟨["c"], [cellOfJson (.int (-1))]⟩ ⟨["c"], [cellOfJson (.string "-1")]⟩ "c" rfl rfl
  obtain ⟨-, -, -, -, hflag, hsame, hcount, -⟩ := hgreatest
  obtain ⟨k, -, hbare, hquoted⟩ := hcount (by decide)
  refine ⟨hbare.trans hquoted.symm, hsame.trans hflag, ?_⟩
  exact (hnegative.2.2.2.2.2.2.2 (by decide)).2

end ClickHouse

end SqlDialect
