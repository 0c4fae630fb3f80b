import SqlDialect.ClickHouse.Wrapper
import SqlDialect.Proofs.Text.Trim
/-!
# Wrapped types, taken apart and put together

A `TypeText` is a type taken apart: its wrappers from the outside in, a name, and
parameters between parentheses if it has any. It is `WellFormed` if the name is that
of no wrapper, has no parenthesis and no blanks around it, and if no type is wrapped
that has to stand bare.

* `WellFormed.peelAll_text`: peeling undoes the wrapping, wrapper by wrapper (`peel?_wrap`), and
  stops at the name (`base_ne_wrap`).
* `WellFormed.ddlTypeChars_eq`: the type in a definition is the same type with at most
  one wrapper more.
* `normalizeType_ddlType`: so a normalized column is found again, type and
  nullability, in the definition that is made from it.
-/

namespace SqlDialect

namespace ClickHouse

/-! ### Wrappers -/

inductive Wrapper
  | nullable
  | lowCardinality
  deriving DecidableEq

namespace Wrapper

def name : Wrapper → List Char
  | nullable => "Nullable".toList
  | lowCardinality => "LowCardinality".toList

def wrap (w : Wrapper) (type : List Char) : List Char := w.name ++ '(' :: type ++ [')']

theorem wrap_nullable (type : List Char) :
    nullable.wrap type = nullableOpening ++ type ++ [')'] := rfl

theorem wrap_lowCardinality (type : List Char) :
    lowCardinality.wrap type = lowCardinalityOpening ++ type ++ [')'] := rfl

theorem trimmed_wrap (w : Wrapper) (type : List Char) : Text.Trimmed (w.wrap type) := by
  constructor
  · cases w <;> (rintro c ⟨⟩; decide)
  · intro c hc
    rw [wrap, List.getLast?_concat] at hc
    cases hc
    decide

theorem not_mem_name (w : Wrapper) : '(' ∉ w.name := by
  cases w <;> decide

theorem between?_wrap_of_ne (type : List Char) :
    between? nullableOpening (lowCardinality.wrap type) = none := by
  rw [Option.eq_none_iff_forall_ne_some]
  intro inner h
  have h := between?_eq_some_iff.mp h
  exact absurd (List.cons.inj h).1 (by decide)

end Wrapper

/-- **One wrapper is peeled off**, and the blanks inside it. -/
theorem peel?_wrap (w : Wrapper) (type : List Char) :
    peel? (w.wrap type) = some (Text.trimChars type, decide (w = .nullable)) := by
  cases w with
  | nullable =>
    rw [peel?, between?_eq_some_iff.mpr (Wrapper.wrap_nullable type)]
    rfl
  | lowCardinality =>
    rw [peel?, Wrapper.between?_wrap_of_ne,
      between?_eq_some_iff.mpr (Wrapper.wrap_lowCardinality type)]
    rfl

theorem peel?_eq_none {type : List Char} (h : ∀ (w : Wrapper) inner, type ≠ w.wrap inner) :
    peel? type = none := by
  unfold peel?
  split
  · rename_i inner hinner
    exact absurd (between?_eq_some_iff.mp hinner) (h .nullable inner)
  · split
    · rename_i inner hinner
      exact absurd (between?_eq_some_iff.mp hinner) (h .lowCardinality inner)
    · rfl

theorem peelAll_of_some {type inner : List Char} {nullable : Bool}
    (h : peel? type = some (inner, nullable)) :
    peelAll type = ((peelAll inner).1, nullable || (peelAll inner).2) := by
  rw [peelAll]
  split
  · rename_i inner' nullable' h'
    rw [h'] at h
    cases h
    rfl
  · rename_i h'
    rw [h'] at h
    cases h

theorem peelAll_of_none {type : List Char} (h : peel? type = none) :
    peelAll type = (type, false) := by
  rw [peelAll]
  split
  · rename_i h'
    rw [h'] at h
    cases h
  · rfl

/-! ### Types taken apart -/

/-- A type: its wrappers from the outside in, its name, and its parameters. -/
structure TypeText where
  wrappers : List Wrapper
  name : List Char
  /-- What stands between parentheses behind the name. -/
  parameters : Option (List Char)

namespace TypeText

/-- The type inside all wrappers. -/
def base (t : TypeText) : List Char :=
  match t.parameters with
  | none => t.name
  | some ps => t.name ++ '(' :: ps ++ [')']

def text (t : TypeText) : List Char := t.wrappers.foldr Wrapper.wrap t.base

/-- One of the wrappers allows NULL. -/
def nullable (t : TypeText) : Bool := decide (Wrapper.nullable ∈ t.wrappers)

/-- A type that is made of others, and cannot be nullable. -/
def isComposite (t : TypeText) : Bool := compositeOpenings.any (beginsWith · t.base)

/-- The name is trimmed, has no parenthesis and is that of no wrapper, and a
composite type has no wrappers. -/
structure WellFormed (t : TypeText) : Prop where
  trimmed : Text.Trimmed t.name
  noParen : '(' ∉ t.name
  ne_wrapper : ∀ w : Wrapper, t.name ≠ w.name
  bare : t.isComposite = true → t.wrappers = []

variable {t : TypeText}

theorem WellFormed.trimmed_base (ht : t.WellFormed) : Text.Trimmed t.base := by
  unfold base
  split
  · exact ht.trimmed
  · rename_i ps _
    constructor
    · intro c hc
      cases hname : t.name with
      | nil =>
        rw [hname] at hc
        cases hc
        decide
      | cons d s =>
        refine ht.trimmed.head c ?_
        rw [hname] at hc ⊢
        exact hc
    · intro c hc
      rw [List.getLast?_concat] at hc
      cases hc
      decide

theorem trimmed_foldr_wrap {base : List Char} (hbase : Text.Trimmed base) (ws : List Wrapper) :
    Text.Trimmed (ws.foldr Wrapper.wrap base) := by
  cases ws with
  | nil => exact hbase
  | cons w ws => exact w.trimmed_wrap _

theorem ne_paren_of_not_mem {s : List Char} (hs : '(' ∉ s) : ∀ c ∈ s, (c != '(') = true := by
  intro c hc
  rw [bne_iff_ne]
  rintro rfl
  exact hs hc

/-- The name of a type ends at the first parenthesis. -/
theorem takeWhile_base (hname : '(' ∉ t.name) : t.base.takeWhile (· != '(') = t.name := by
  have hall := ne_paren_of_not_mem hname
  unfold base
  split
  · exact List.takeWhile_eq_self_iff.mpr hall
  · rw [List.append_assoc, List.takeWhile_append_of_pos hall]
    simp

theorem takeWhile_wrap (w : Wrapper) (type : List Char) :
    (w.wrap type).takeWhile (· != '(') = w.name := by
  rw [Wrapper.wrap, List.append_assoc,
    List.takeWhile_append_of_pos (ne_paren_of_not_mem w.not_mem_name)]
  simp

theorem WellFormed.base_ne_wrap (ht : t.WellFormed) (w : Wrapper) (inner : List Char) :
    t.base ≠ w.wrap inner := by
  intro h
  have hname := takeWhile_base ht.noParen
  rw [h, takeWhile_wrap] at hname
  exact ht.ne_wrapper w hname.symm

/-- **Peeling undoes the wrapping.** -/
theorem WellFormed.peelAll_text (ht : t.WellFormed) : peelAll t.text = (t.base, t.nullable) := by
  unfold text nullable
  induction t.wrappers with
  | nil => exact peelAll_of_none (peel?_eq_none ht.base_ne_wrap)
  | cons w ws ih =>
    have hinner := (trimmed_foldr_wrap ht.trimmed_base ws).trimChars_eq
    have hpeel := peel?_wrap w (ws.foldr Wrapper.wrap t.base)
    rw [hinner] at hpeel
    rw [List.foldr_cons, peelAll_of_some hpeel, ih]
    cases w <;> simp

theorem WellFormed.normalizeType_eq (ht : t.WellFormed) {type : String}
    (htype : type.toList = t.text) : normalizeType type = (String.ofList t.base, t.nullable) := by
  have htrim := (trimmed_foldr_wrap ht.trimmed_base t.wrappers).trimChars_eq
  rw [normalizeType, htype, text, htrim]
  exact congrArg (fun p => (String.ofList p.1, p.2)) ht.peelAll_text

/-! ### The type in a definition -/

theorem beginsWith_iff {opening type : List Char} :
    beginsWith opening type = true ↔ ∃ rest, type = opening ++ rest := by
  rw [beginsWith, Option.isSome_iff_exists]
  simp only [Text.stripPrefix?_eq_some_iff]

theorem compositeOpenings_wrap (w : Wrapper) (type : List Char) :
    compositeOpenings.any (beginsWith · (w.wrap type)) = false := by
  cases w <;> rfl

theorem beginsWith_wrap (w : Wrapper) (type : List Char) :
    beginsWith nullableOpening (w.wrap type) = decide (w = .nullable) := by
  cases w <;> rfl

theorem WellFormed.not_beginsWith_base (ht : t.WellFormed) :
    beginsWith nullableOpening t.base = false := by
  rw [Bool.eq_false_iff]
  intro h
  obtain ⟨rest, hrest⟩ := beginsWith_iff.mp h
  have hname := takeWhile_base ht.noParen
  rw [hrest] at hname
  exact ht.ne_wrapper .nullable hname.symm

/-- Wrappers with `Nullable` among them. It goes inside an outer `LowCardinality`. -/
def allowing : List Wrapper → List Wrapper
  | [] => [.nullable]
  | .nullable :: ws => .nullable :: ws
  | .lowCardinality :: ws =>
    .lowCardinality :: if ws.head? = some .nullable then ws else .nullable :: ws

theorem nullable_mem_allowing (ws : List Wrapper) : Wrapper.nullable ∈ allowing ws := by
  match ws with
  | [] => exact List.mem_singleton_self _
  | .nullable :: ws => exact List.mem_cons_self ..
  | .lowCardinality :: ws =>
    refine List.mem_cons_of_mem _ ?_
    split
    · rename_i h
      exact List.mem_of_mem_head? h
    · exact List.mem_cons_self ..

theorem WellFormed.beginsWith_text (ht : t.WellFormed) (ws : List Wrapper) :
    beginsWith nullableOpening (ws.foldr Wrapper.wrap t.base) =
      decide (ws.head? = some .nullable) := by
  cases ws with
  | nil => exact ht.not_beginsWith_base
  | cons w ws =>
    rw [List.foldr_cons, beginsWith_wrap, List.head?_cons]
    simp

theorem allowNull_wrap_lowCardinality (type : List Char) :
    allowNull (Wrapper.lowCardinality.wrap type) = Wrapper.lowCardinality.wrap
      (if beginsWith nullableOpening type then type else Wrapper.nullable.wrap type) := by
  have hinner : between? lowCardinalityOpening (Wrapper.lowCardinality.wrap type) = some type :=
    between?_eq_some_iff.mpr (Wrapper.wrap_lowCardinality type)
  rw [allowNull, hinner]
  by_cases hb : beginsWith nullableOpening type = true
  · rw [if_pos hb]
    exact if_pos hb
  · rw [if_neg hb, Wrapper.wrap_nullable,
      Wrapper.wrap_lowCardinality (nullableOpening ++ type ++ [')'])]
    refine (if_neg hb).trans ?_
    simp only [List.append_assoc, List.singleton_append]

theorem allowNull_eq_wrap {type : List Char}
    (h : ∀ inner, type ≠ Wrapper.lowCardinality.wrap inner) :
    allowNull type = Wrapper.nullable.wrap type := by
  have hnone : between? lowCardinalityOpening type = none := by
    rw [Option.eq_none_iff_forall_ne_some]
    intro inner hinner
    exact h inner ((between?_eq_some_iff.mp hinner).trans (Wrapper.wrap_lowCardinality inner).symm)
  rw [allowNull, hnone]
  rfl

theorem WellFormed.allowNull_text (ht : t.WellFormed) {ws : List Wrapper}
    (hws : ws.head? ≠ some .nullable) :
    allowNull (ws.foldr Wrapper.wrap t.base) = (allowing ws).foldr Wrapper.wrap t.base := by
  match ws with
  | [] => exact allowNull_eq_wrap (ht.base_ne_wrap .lowCardinality)
  | .nullable :: ws => exact absurd rfl hws
  | .lowCardinality :: ws =>
    rw [List.foldr_cons, allowNull_wrap_lowCardinality, ht.beginsWith_text, allowing,
      List.foldr_cons]
    simp only [decide_eq_true_eq]
    split <;> rfl

/-- Whether a column of this type is made nullable by its definition. -/
def madeNullable (t : TypeText) (c : Column) : Bool :=
  c.nullable && !c.isPrimaryKey && !t.isComposite

/-- The type of a column in a definition, taken apart. -/
def inDefinition (t : TypeText) (c : Column) : TypeText :=
  { t with wrappers := if t.madeNullable c then allowing t.wrappers else t.wrappers }

theorem WellFormed.compositeOpenings_text (ht : t.WellFormed) :
    compositeOpenings.any (beginsWith · t.text) = t.isComposite := by
  unfold text
  cases hws : t.wrappers with
  | nil => rfl
  | cons w ws =>
    rw [List.foldr_cons, compositeOpenings_wrap]
    refine (Bool.eq_false_iff.mpr fun h => ?_).symm
    rw [ht.bare h] at hws
    cases hws

/-- **The type in a definition** is the same type, with a `Nullable` more if the column
asks for one and may have it. -/
theorem WellFormed.ddlTypeChars_eq (ht : t.WellFormed) {c : Column}
    (hc : c.dataType.toList = t.text) : ddlTypeChars c = (t.inDefinition c).text := by
  have hbegins : beginsWith nullableOpening t.text = decide (t.wrappers.head? = some .nullable) :=
    ht.beginsWith_text t.wrappers
  rw [ddlTypeChars, hc]
  simp only [hbegins, ht.compositeOpenings_text]
  rw [inDefinition]
  by_cases hmade : t.madeNullable c = true
  · rw [hmade, if_pos rfl]
    simp only [madeNullable, Bool.and_eq_true, Bool.not_eq_true'] at hmade
    obtain ⟨⟨hnull, hkey⟩, hcomposite⟩ := hmade
    rw [hnull, hkey, hcomposite]
    by_cases hhead : t.wrappers.head? = some .nullable
    · obtain ⟨ws, hws⟩ := List.head?_eq_some_iff.mp hhead
      rw [decide_eq_true hhead, hws]
      simp [text, base, hws, allowing]
    · rw [decide_eq_false hhead]
      exact ht.allowNull_text hhead
  · rw [if_neg hmade, if_pos]
    simp only [madeNullable, Bool.and_eq_true, Bool.not_eq_true'] at hmade
    grind

theorem nullable_inDefinition (t : TypeText) (c : Column) :
    (t.inDefinition c).nullable = (t.nullable || t.madeNullable c) := by
  unfold nullable inDefinition
  cases t.madeNullable c with
  | true => simp [nullable_mem_allowing]
  | false => simp

theorem WellFormed.inDefinition (ht : t.WellFormed) (c : Column) :
    (t.inDefinition c).WellFormed where
  trimmed := ht.trimmed
  noParen := ht.noParen
  ne_wrapper := ht.ne_wrapper
  bare hcomposite := by
    have hmade : t.madeNullable c = false := by
      have hcomposite : t.isComposite = true := hcomposite
      rw [madeNullable, hcomposite, Bool.not_true, Bool.and_false]
    rw [TypeText.inDefinition, hmade, if_neg Bool.false_ne_true]
    exact ht.bare hcomposite

def bare (t : TypeText) : TypeText := { t with wrappers := [] }

theorem WellFormed.wellFormed_bare (ht : t.WellFormed) : t.bare.WellFormed where
  trimmed := ht.trimmed
  noParen := ht.noParen
  ne_wrapper := ht.ne_wrapper
  bare _ := rfl

theorem WellFormed.toList_ddlType (ht : t.WellFormed) {c : Column}
    (hc : c.dataType.toList = t.text) : (ddlType c).toList = (t.inDefinition c).text := by
  rw [ddlType, String.toList_ofList, ht.ddlTypeChars_eq hc]

theorem WellFormed.normalizeColumn_eq (ht : t.WellFormed) {c : Column}
    (hc : c.dataType.toList = t.text) : normalizeColumn c =
      { c with dataType := String.ofList t.base, nullable := c.nullable || t.nullable } := by
  rw [normalizeColumn, ht.normalizeType_eq hc]

/-- A normalized column that may be nullable at all is as nullable in its definition: nothing wraps
a composite type. -/
theorem WellFormed.madeNullable_bare (ht : t.WellFormed) {c : Column}
    (hc : c.dataType.toList = t.text) (hkey : c.isPrimaryKey = false)
    (hcomposite : c.nullable = true → t.isComposite = false) :
    t.bare.madeNullable (normalizeColumn c) = (normalizeColumn c).nullable := by
  rw [ht.normalizeColumn_eq hc]
  change ((c.nullable || t.nullable) && !c.isPrimaryKey && !t.isComposite) =
    (c.nullable || t.nullable)
  rw [hkey, Bool.not_false, Bool.and_true]
  cases hmade : t.isComposite with
  | false => rw [Bool.not_false, Bool.and_true]
  | true =>
    have hcolumn : c.nullable = false := by
      rw [Bool.eq_false_iff]
      intro h
      rw [hcomposite h] at hmade
      cases hmade
    rw [hcolumn, TypeText.nullable, ht.bare hmade]
    rfl

/-- **A normalized column is found again** in the definition that is made from it. -/
theorem WellFormed.normalizeType_ddlType_normalizeColumn (ht : t.WellFormed) {c : Column}
    (hc : c.dataType.toList = t.text) (hkey : c.isPrimaryKey = false)
    (hcomposite : c.nullable = true → t.isComposite = false) :
    normalizeType (ddlType (normalizeColumn c)) =
      ((normalizeColumn c).dataType, (normalizeColumn c).nullable) := by
  have htype : (normalizeColumn c).dataType.toList = t.bare.text := by
    rw [ht.normalizeColumn_eq hc, String.toList_ofList]
    rfl
  have hbare := ht.wellFormed_bare
  rw [(hbare.inDefinition _).normalizeType_eq (hbare.toList_ddlType htype), nullable_inDefinition,
    ht.madeNullable_bare hc hkey hcomposite, ht.normalizeColumn_eq hc]
  rfl

end TypeText

open TypeText

/-- **A column is found again in its definition.** The type in the definition is the
type of the column with other wrappers, and it is nullable if the type was already, or
if the column is and neither belongs to the primary key nor is composite. So the
definition of a normalized column normalizes to the same type and the same
nullability. Before that, a column that is read from the catalog is not nullable; a
composite type could not say so of one that is. -/
theorem normalizeType_ddlType (t : TypeText) (ht : t.WellFormed) (c : Column)
    (hc : c.dataType.toList = t.text) :
    (c.isPrimaryKey = false → (c.nullable = true → t.isComposite = false) →
      normalizeType (ddlType (normalizeColumn c)) =
        ((normalizeColumn c).dataType, (normalizeColumn c).nullable)) ∧
    ∃ t' : TypeText, t'.WellFormed ∧ (ddlType c).toList = t'.text ∧
      t'.name = t.name ∧ t'.parameters = t.parameters ∧
      (t'.nullable = true ↔ t.nullable = true ∨
        c.nullable = true ∧ c.isPrimaryKey = false ∧ t.isComposite = false) ∧
      normalizeType (ddlType c) = (String.ofList t.base, t'.nullable) := by
  constructor
  · exact ht.normalizeType_ddlType_normalizeColumn hc
  · refine ⟨t.inDefinition c, ht.inDefinition c, ht.toList_ddlType hc, rfl, rfl, ?_,
      (ht.inDefinition c).normalizeType_eq (ht.toList_ddlType hc)⟩
    rw [nullable_inDefinition, madeNullable]
    simp [and_assoc]

/-- A type with parameters in two wrappers. -/
theorem normalizeType_ddlType_of_fixedString :
    normalizeColumn ⟨"t", "a", "LowCardinality(Nullable(FixedString(8)))", none, false, false,
        none, false⟩ = ⟨"t", "a", "FixedString(8)", none, true, false, none, false⟩ ∧
      ddlType ⟨"t", "a", "FixedString(8)", none, true, false, none, false⟩ =
        "Nullable(FixedString(8))" ∧
      normalizeType (ddlType ⟨"t", "a", "FixedString(8)", none, true, false, none, false⟩) =
        ("FixedString(8)", true) := by
  have ht : TypeText.WellFormed
      ⟨[.lowCardinality, .nullable], "FixedString".toList, some ['8']⟩ := by
    refine ⟨⟨?_, ?_⟩, by decide, ?_, ?_⟩
    · rintro c ⟨⟩
      decide
    · rintro c ⟨⟩
      decide
    · intro w
      cases w <;> decide
    · intro h
      exact absurd h (by decide)
  have hnormal : normalizeColumn
      ⟨"t", "a", "LowCardinality(Nullable(FixedString(8)))", none, false, false, none, false⟩ =
      ⟨"t", "a", "FixedString(8)", none, true, false, none, false⟩ := by
    decide +kernel
  have hfix := (normalizeType_ddlType _ ht ⟨"t", "a", "LowCardinality(Nullable(FixedString(8)))",
    none, false, false, none, false⟩ rfl).1 rfl (fun h => by cases h)
  rw [hnormal] at hfix
  exact ⟨hnormal, by decide, hfix⟩

end ClickHouse

end SqlDialect
