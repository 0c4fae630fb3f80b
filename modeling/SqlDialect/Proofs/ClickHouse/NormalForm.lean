import SqlDialect.ClickHouse.Catalog
import SqlDialect.Connection.Scripted
import SqlDialect.Proofs.ClickHouse.Peeling
import SqlDialect.Proofs.Traversal
/-!
# Normal types

A type is in normal form if it is trimmed and no wrapper stands around it. Every text is
normalized to such a type, and such a type stays as it is (`IsNormal.normalizeType_eq`). So
normalizing twice is normalizing once, for types as for columns.

`columnOf_eq_ok_iff` says what a row of the catalog has to hold for a column to be read from
it, and `columns_eq_ok_iff` that the columns of a table are those its rows describe, one by
one. Together they give `normalizeType_isNormal` for the columns of every connection.
-/

namespace SqlDialect.ClickHouse

open Text (Trimmed trimChars)

/-- A type without blanks around it and without a wrapper. -/
structure IsNormal (type : List Char) : Prop where
  trimmed : Trimmed type
  bare : ∀ (w : Wrapper) inner, type ≠ w.wrap inner

theorem IsNormal.normalizeType_eq {type : String} (h : IsNormal type.toList) :
    normalizeType type = (type, false) := by
  rw [normalizeType, h.trimmed.trimChars_eq, peelAll_of_none (peel?_eq_none h.bare)]
  exact congrArg (·, false) String.ofList_toList

theorem Strips.isNormal {type rest : List Char} {steps : List (Wrapper × List Char)}
    (h : Strips (fun _ => True) (trimChars type) steps rest) : IsNormal rest := by
  refine ⟨h.trimmed (Text.trimmed_trimChars type), ?_⟩
  intro w inner hwrap
  exact h.not_taken w inner hwrap trivial

theorem isNormal_normalizeType (type : String) : IsNormal (normalizeType type).1.toList := by
  obtain ⟨steps, rest, hrun⟩ := Strips.exists_strips (fun _ => True) (trimChars type.toList)
  rw [normalizeType_of_strips hrun, String.toList_ofList]
  exact hrun.isNormal

theorem normalizeColumn_of_isNormal {c : Column} (h : IsNormal c.dataType.toList) :
    normalizeColumn c = c := by
  rw [normalizeColumn, h.normalizeType_eq]
  simp

theorem normalizeColumn_normalizeColumn (c : Column) :
    normalizeColumn (normalizeColumn c) = normalizeColumn c :=
  normalizeColumn_of_isNormal (isNormal_normalizeType c.dataType)

namespace Catalog

/-! ### Columns of the catalog -/

/-- A column as a row of the catalog describes it: its type is what is left when the
wrappers are stripped from the reported one, and it is nullable exactly if one of these was
`Nullable`. -/
structure Describes (table : String) (r : Row) (col : Column) : Prop where
  tableName : col.tableName = table
  columnName : r.decodeString "name" = .ok col.columnName
  type : ∃ type steps, r.decodeString "type" = .ok type ∧
    Strips (fun _ => True) (trimChars type.toList) steps col.dataType.toList ∧
    (col.nullable = true ↔ Wrapper.nullable ∈ steps.map Prod.fst)
  comment : ∃ text, r.decodeString? "comment" = .ok text ∧ col.comment = nonEmpty? text
  isPrimaryKey : r.decodeFlag "is_in_primary_key" = .ok col.isPrimaryKey
  defaultValue : ∃ text, r.decodeString? "default_expression" = .ok text ∧
    col.defaultValue = nonEmpty? text
  autoIncrement : col.autoIncrement = false

theorem Describes.isNormal {table : String} {r : Row} {col : Column}
    (h : Describes table r col) : IsNormal col.dataType.toList := by
  obtain ⟨type, steps, -, hrun, -⟩ := h.type
  exact hrun.isNormal

theorem columnOf_eq_ok_iff {table : String} {r : Row} {col : Column} :
    columnOf table r = .ok col ↔ Describes table r col := by
  simp only [columnOf, bind_eq_ok_iff, pure, Except.pure, Except.ok.injEq]
  constructor
  · rintro ⟨name, hname, type, htype, comment, hcomment, key, hkey, default, hdefault, rfl⟩
    obtain ⟨steps, rest, hrun⟩ := Strips.exists_strips (fun _ => True) (trimChars type.toList)
    have hnormal := normalizeType_of_strips hrun
    refine ⟨rfl, hname, ⟨type, steps, htype, ?_, ?_⟩, ⟨comment, hcomment, rfl⟩, hkey,
      ⟨default, hdefault, rfl⟩, rfl⟩
    · rw [normalizeColumn, hnormal, String.toList_ofList]
      exact hrun
    · simp [normalizeColumn, hnormal]
  · intro h
    obtain ⟨type, steps, htype, hrun, hnullable⟩ := h.type
    obtain ⟨comment, hcomment, hcol⟩ := h.comment
    obtain ⟨default, hdefault, hcol'⟩ := h.defaultValue
    refine ⟨col.columnName, h.columnName, type, htype, comment, hcomment, col.isPrimaryKey,
      h.isPrimaryKey, default, hdefault, ?_⟩
    have hnull : decide (Wrapper.nullable ∈ steps.map Prod.fst) = col.nullable := by
      rw [Bool.eq_iff_iff, decide_eq_true_iff]
      exact hnullable.symm
    have hauto := h.autoIncrement
    rw [normalizeColumn, normalizeType_of_strips hrun, hnull, ← hcol, ← hcol', ← h.tableName]
    cases col
    cases hauto
    simp

theorem columns_eq_ok_iff {σ : Type} {c : Connection σ} {table : String} {names : List String}
    {s s' : σ} {cs : List Column} :
    columns c (table :: names) s = (.ok cs, s') ↔
      ∃ result, c.query columnsQuery [.string c.database, .string table] s = (.ok result, s') ∧
        List.Forall₂ (Describes table) result.rows cs := by
  have hrows (result : ResultSet) : result.rows.mapM (columnOf table) = .ok cs ↔
      List.Forall₂ (Describes table) result.rows cs := by
    rw [mapM_eq_ok_iff]
    simp only [columnOf_eq_ok_iff]
  rw [columns, step_bind_apply]
  rcases c.query columnsQuery [.string c.database, .string table] s with ⟨reply, s₁⟩
  cases reply with
  | error e =>
    refine iff_of_false (fun h => ?_) ?_
    · cases h
    · rintro ⟨result, h, -⟩
      cases h
  | ok result =>
    change (result.rows.mapM (columnOf table), s₁) = (.ok cs, s') ↔ _
    constructor
    · intro h
      obtain ⟨hcs, rfl⟩ := Prod.mk.inj h
      exact ⟨result, rfl, (hrows result).mp hcs⟩
    · rintro ⟨result', h, hcs⟩
      cases h
      rw [(hrows result).mpr hcs]

end Catalog

open SqlDialect.ClickHouse.Catalog

/-- **Every type is normalized to a normal form.** The loop that strips the wrappers ends,
after no more turns than the text has characters, and leaves a text that is trimmed, has no
wrapper and stays as it is when it is normalized. A normalized column stays as it is as well;
only its type and its nullability differ from what they were, and it is nullable if it was.
The columns of a table are therefore normal. There is one for each row of the answer, in
order, and it is nullable exactly if a `Nullable` was stripped from the type reported there. -/
theorem normalizeType_isNormal :
    (∀ type : String, ∃ steps rest,
      Strips (fun _ => True) (trimChars type.toList) steps rest ∧
      steps.length ≤ type.toList.length ∧
      normalizeType type =
        (String.ofList rest, decide (Wrapper.nullable ∈ steps.map Prod.fst)) ∧
      IsNormal rest ∧ normalizeType (String.ofList rest) = (String.ofList rest, false)) ∧
    (∀ c : Column, normalizeColumn (normalizeColumn c) = normalizeColumn c ∧
      (∃ type nullable, normalizeColumn c = { c with dataType := type, nullable := nullable }) ∧
      (c.nullable = true → (normalizeColumn c).nullable = true)) ∧
    ∀ (σ : Type) (c : Connection σ) (table : String) (names : List String) (s s' : σ)
        (cs : List Column),
      columns c [] s = (.ok [], s) ∧
      (columns c (table :: names) s = (.ok cs, s') ↔ ∃ result,
        c.query columnsQuery [.string c.database, .string table] s = (.ok result, s') ∧
          List.Forall₂ (Describes table) result.rows cs) ∧
      (columns c (table :: names) s = (.ok cs, s') → ∀ col ∈ cs,
        IsNormal col.dataType.toList ∧ normalizeType col.dataType = (col.dataType, false) ∧
          normalizeColumn col = col) := by
  refine ⟨?_, ?_, ?_⟩
  · intro type
    obtain ⟨steps, rest, hrun⟩ := Strips.exists_strips (fun _ => True) (trimChars type.toList)
    have hnormal : IsNormal (String.ofList rest).toList := by
      rw [String.toList_ofList]
      exact hrun.isNormal
    have hturns := hrun.length_le
    have htrim := length_trimChars_le type.toList
    exact ⟨steps, rest, hrun, by omega, normalizeType_of_strips hrun, hrun.isNormal,
      hnormal.normalizeType_eq⟩
  · intro c
    refine ⟨normalizeColumn_normalizeColumn c, ⟨_, _, rfl⟩, ?_⟩
    intro hnullable
    rw [normalizeColumn, hnullable]
    rfl
  · intro σ c table names s s' cs
    refine ⟨rfl, columns_eq_ok_iff, ?_⟩
    intro hcolumns col hcol
    obtain ⟨result, -, hrows⟩ := columns_eq_ok_iff.mp hcolumns
    have hall : ∀ col ∈ cs, IsNormal col.dataType.toList :=
      (forall_mem_iff_of_forall₂ hrows fun r _ col hr => iff_of_true trivial hr.isNormal).mp
        fun r _ => trivial
    have hnormal := hall col hcol
    exact ⟨hnormal, hnormal.normalizeType_eq, normalizeColumn_of_isNormal hnormal⟩

/-- A catalog that reports one column, of this type. -/
def reporting (type : String) : Connection Bool :=
  { ({} : Script).connection with
    query := fun _ _ => pure (.ofRows ["name", "type"] [[.string "a", .string type]]) }

/-- A column whose reported type has blanks around and inside its wrappers. -/
theorem normalizeType_isNormal_of_reported :
    ∃ col, columns (reporting " Nullable( LowCardinality(String) )") ["t"] false =
        (.ok [col], false) ∧
      col.dataType = "String" ∧ col.nullable = true ∧ normalizeColumn col = col := by
  have hbare : ∀ (w : Wrapper) inner, "String".toList = w.wrap inner → ¬True := by
    intro w inner hwrap
    cases w <;> exact absurd (List.cons.inj hwrap).1 (by decide)
  have hlow := @Strips.strip (fun _ => True) "String".toList _ _ .lowCardinality trivial
    (.done hbare)
  have hrun : Strips (fun _ => True) (trimChars " Nullable( LowCardinality(String) )".toList)
      [(.nullable, " LowCardinality(String) ".toList), (.lowCardinality, "String".toList)]
      "String".toList :=
    @Strips.strip _ " LowCardinality(String) ".toList _ _ .nullable trivial hlow
  have hrow : Describes "t"
      ⟨["name", "type"], [.string "a", .string " Nullable( LowCardinality(String) )"]⟩
      ⟨"t", "a", "String", none, true, false, none, false⟩ :=
    ⟨rfl, rfl, ⟨_, _, rfl, hrun, by decide⟩, ⟨none, rfl, rfl⟩, rfl, ⟨none, rfl, rfl⟩, rfl⟩
  obtain ⟨-, hiff, hnormal⟩ := normalizeType_isNormal.2.2 Bool
    (reporting " Nullable( LowCardinality(String) )") "t" [] false false
    [⟨"t", "a", "String", none, true, false, none, false⟩]
  have hcolumns := hiff.mpr ⟨_, rfl, .cons hrow .nil⟩
  exact ⟨_, hcolumns, rfl, rfl, (hnormal hcolumns _ (List.mem_singleton_self _)).2.2⟩

end SqlDialect.ClickHouse
