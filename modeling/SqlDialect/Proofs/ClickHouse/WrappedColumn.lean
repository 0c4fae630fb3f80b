import SqlDialect.Proofs.ClickHouse.Insert
import SqlDialect.Proofs.ClickHouse.TypeText
/-!
# Columns of wrapped types

A type may stand in any number of wrappers, in any order, with blanks around it and
around what each wrapper holds (`Wraps`). Peeling goes through all of them to the base
and sees whether one of them was `Nullable` (`Wraps.peelAll_eq`), by induction on the
wrappers from the outside in: under each of them stands, less its blanks, a type with
one wrapper less.

The base of a type of the table is its name, with or without parameters, and neither
is taken for a wrapper (`wellFormed_entry`). So a column is resolved, and its values are
written, by the type inside (`normalizeType_wraps`).
-/

namespace SqlDialect.ClickHouse

open Text (Trimmed isBlank trimChars)

/-- A type that holds `base` in these wrappers from the outside in, with blanks around it
and around everything that is wrapped. -/
inductive Wraps (base : List Char) : List Wrapper → List Char → Prop
  | bare {front back : List Char} : (∀ c ∈ front, isBlank c = true) →
      (∀ c ∈ back, isBlank c = true) → Wraps base [] (front ++ base ++ back)
  | wrap {w : Wrapper} {ws : List Wrapper} {type front back : List Char} :
      (∀ c ∈ front, isBlank c = true) → (∀ c ∈ back, isBlank c = true) → Wraps base ws type →
      Wraps base (w :: ws) (front ++ w.wrap type ++ back)

variable {base : List Char} {ws : List Wrapper}

/-- **Peeling finds the base**, whatever blanks stand around it. -/
theorem Wraps.peelAll_eq {type : List Char} (h : Wraps base ws type) (hbase : Trimmed base)
    (hbare : ∀ (w : Wrapper) inner, base ≠ w.wrap inner) :
    peelAll (trimChars type) = (base, decide (Wrapper.nullable ∈ ws)) := by
  induction h with
  | bare hfront hback =>
    rw [hbase.trimChars_between hfront hback, peelAll_of_none (peel?_eq_none hbare)]
    rfl
  | @wrap w ws type front back hfront hback h ih =>
    -- what is inside is trimmed before it is peeled, as the hypothesis has it
    rw [(w.trimmed_wrap type).trimChars_between hfront hback, peelAll_of_some (peel?_wrap w type),
      ih]
    cases w <;> simp

theorem Wraps.normalizeType_eq {type : String} (h : Wraps base ws type.toList)
    (hbase : Trimmed base) (hbare : ∀ (w : Wrapper) inner, base ≠ w.wrap inner) :
    normalizeType type = (String.ofList base, decide (Wrapper.nullable ∈ ws)) := by
  rw [normalizeType, h.peelAll_eq hbase hbare]

/-! ### Types of the table -/

/-- A type of the table with or without parameters. -/
def entryText (entry : NativeType) (parameters : Option (List Char)) : TypeText :=
  ⟨[], entry.name.toList, parameters⟩

theorem trimmed_name {entry : NativeType} (h : entry ∈ types.entries) :
    Trimmed entry.name.toList ∧ '(' ∉ entry.name.toList := by
  have hall : types.entries.all (fun entry =>
      decide (Trimmed entry.name.toList ∧ '(' ∉ entry.name.toList)) = true := by
    decide +kernel
  exact of_decide_eq_true (List.all_eq_true.mp hall entry h)

theorem wellFormed_entry {entry : NativeType} (h : entry ∈ types.entries)
    (hname : ∀ w : Wrapper, entry.name.toList ≠ w.name) (parameters : Option (List Char)) :
    (entryText entry parameters).WellFormed where
  trimmed := (trimmed_name h).1
  noParen := (trimmed_name h).2
  ne_wrapper := hname
  bare _ := rfl

theorem resolve_base {entry : NativeType} (h : entry ∈ types.entries)
    (parameters : Option (List Char)) :
    types.resolve (String.ofList (entryText entry parameters).base) = .ok entry := by
  have hbase : TypeTable.base (String.ofList (entryText entry parameters).base) = entry.name := by
    rw [TypeTable.base, String.toList_ofList, TypeText.takeWhile_base (trimmed_name h).2,
      entryText, (trimmed_name h).1.trimChars_eq, String.ofList_toList]
  rw [TypeTable.resolve, hbase, TypeTable.get?_name h]

/-- **Wrappers make no difference but one.** A type is normalized to the base that its
wrappers hold, if this is trimmed and no wrapper itself, and is nullable exactly if one
of them says so. If the base is a type of the table other than the wrappers, with or
without parameters, this is so, and a column of the wrapped type is resolved to that
type and has its literals. -/
theorem normalizeType_wraps {type : String} (h : Wraps base ws type.toList) :
    (Trimmed base → (∀ (w : Wrapper) inner, base ≠ w.wrap inner) →
      normalizeType type = (String.ofList base, decide (Wrapper.nullable ∈ ws))) ∧
    ∀ entry ∈ types.entries, entry.name ≠ "Nullable" → entry.name ≠ "LowCardinality" →
      (base = entry.name.toList ∨ ∃ ps, base = entry.name.toList ++ '(' :: ps ++ [')']) →
      normalizeType type = (String.ofList base, decide (Wrapper.nullable ∈ ws)) ∧
        ∀ c : Column, c.dataType = type → vocabulary.resolve c = .ok entry ∧
          ∀ value, vocabulary.literal c value = .ok (value.literal entry.category literals) := by
  refine ⟨h.normalizeType_eq, fun entry hentry hnullable hlow hbase => ?_⟩
  obtain ⟨parameters, rfl⟩ : ∃ parameters, base = (entryText entry parameters).base := by
    rcases hbase with rfl | ⟨ps, rfl⟩
    · exact ⟨none, rfl⟩
    · exact ⟨some ps, rfl⟩
  have hname : ∀ w : Wrapper, entry.name.toList ≠ w.name := by
    intro w
    cases w with
    | nullable => exact fun he => hnullable (String.toList_injective he)
    | lowCardinality => exact fun he => hlow (String.toList_injective he)
  have ht := wellFormed_entry hentry hname parameters
  have hnormal := h.normalizeType_eq ht.trimmed_base ht.base_ne_wrap
  refine ⟨hnormal, fun c hc => ?_⟩
  have hresolve : vocabulary.resolve c = .ok entry :=
    resolve_of_normalizeType (by rw [hc, hnormal]) (resolve_base hentry parameters)
  refine ⟨hresolve, fun value => ?_⟩
  rw [Vocabulary.literal, hresolve]
  rfl

/-- A type with parameters in three wrappers, with blanks. -/
theorem normalizeType_wraps_of_decimal :
    normalizeType " LowCardinality( Nullable(LowCardinality(\tDecimal(9, 2) ) )) " =
        ("Decimal(9, 2)", true) ∧
      vocabulary.literal ⟨"t", "a", " LowCardinality( Nullable(LowCardinality(\tDecimal(9, 2) ) )) ",
        none, false, false, none, false⟩ (.string "1.50") = .ok "1.50" := by
  have hwraps : Wraps "Decimal(9, 2)".toList [.lowCardinality, .nullable, .lowCardinality]
      " LowCardinality( Nullable(LowCardinality(\tDecimal(9, 2) ) )) ".toList := by
    have hnone : ∀ c ∈ ([] : List Char), isBlank c = true := List.forall_mem_nil _
    have hblank : ∀ c ∈ [' '], isBlank c = true := List.forall_mem_singleton.mpr (by decide)
    have htab : ∀ c ∈ ['\t'], isBlank c = true := List.forall_mem_singleton.mpr (by decide)
    have hbare := @Wraps.bare "Decimal(9, 2)".toList _ _ htab hblank
    have hlow := @Wraps.wrap _ .lowCardinality _ _ _ _ hnone hblank hbare
    have hnull := @Wraps.wrap _ .nullable _ _ _ _ hblank hnone hlow
    exact @Wraps.wrap _ .lowCardinality _ _ _ _ hblank hblank hnull
  obtain ⟨hnormal, hcolumn⟩ := (normalizeType_wraps hwraps).2 ⟨"Decimal", .decimal, .decimal⟩
    (by decide) (by decide) (by decide) (Or.inr ⟨"9, 2".toList, by decide⟩)
  refine ⟨hnormal, ((hcolumn _ rfl).2 (.string "1.50")).trans ?_⟩
  decide +kernel

end SqlDialect.ClickHouse
