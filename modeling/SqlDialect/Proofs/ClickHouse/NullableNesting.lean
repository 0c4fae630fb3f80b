import Mathlib.Data.List.Infix
import SqlDialect.Proofs.ClickHouse.Definition
import SqlDialect.Proofs.ClickHouse.Peeling
/-!
# What the definitions wrap in `Nullable`

`Nullable` may hold neither itself, nor `LowCardinality`, nor a composite type. What is
wrapped is told by how the text of a type begins, and the tests take the text as it is, with
the blanks that normalizing tolerates. A type `Conceals` how it begins if it has blanks in
front of it or behind the parenthesis of `LowCardinality`, or if that parenthesis is not
closed at the end.

* A type that conceals nothing is nested as it may be (`nestsWell_of_not_conceals`).
* One that does is wrapped although it may not be, and there is no other way to read the
  definition (`Conceals.not_nestsWell`): the text of a wrapper cannot overlap with itself, so
  the place where one was put in is determined (`eq_of_inserted`).
-/

namespace SqlDialect.ClickHouse

open Text (trimChars isBlank)

/-- How the types begin that `Nullable` may not hold. -/
def refusedOpenings : List (List Char) :=
  nullableOpening :: lowCardinalityOpening :: compositeOpenings

/-- `Nullable` may not hold this type. -/
def RefusesNullable (type : List Char) : Prop :=
  ∃ opening ∈ refusedOpenings, opening <+: trimChars type

/-- A text that differs from the type has one `Nullable` more, put in around something that it
may hold. -/
def NestsWell (type text : List Char) : Prop :=
  text ≠ type → ∃ front arg back, type = front ++ arg ++ back ∧
    text = front ++ Wrapper.nullable.wrap arg ++ back ∧ ¬RefusesNullable arg

/-- `LowCardinality` holds neither itself nor a composite type. -/
def HoldsPlain (type : List Char) : Prop :=
  ∀ inner, type = Wrapper.lowCardinality.wrap inner →
    ∀ opening ∈ lowCardinalityOpening :: compositeOpenings, ¬opening <+: trimChars inner

/-- A type that begins otherwise than the tests see. -/
inductive Conceals : List Char → Prop
  /-- Blanks stand in front of what `Nullable` may not hold. -/
  | front {blanks opening rest : List Char} : blanks ≠ [] → (∀ c ∈ blanks, isBlank c = true) →
      opening ∈ refusedOpenings → Conceals (blanks ++ opening ++ rest)
  /-- Blanks stand in front of a `Nullable` inside `LowCardinality`. -/
  | inner {blanks rest : List Char} : blanks ≠ [] → (∀ c ∈ blanks, isBlank c = true) →
      Conceals (Wrapper.lowCardinality.wrap (blanks ++ nullableOpening ++ rest))
  /-- `LowCardinality` is not closed at the end. -/
  | unclosed {rest : List Char} : (∀ inner, rest ≠ inner ++ [')']) →
      Conceals (lowCardinalityOpening ++ rest)

/-! ### How types begin -/

theorem trimmed_refusedOpenings {opening : List Char} (h : opening ∈ refusedOpenings) :
    opening ≠ [] ∧ Text.Trimmed opening ∧ ')' ∉ opening := by
  have hall : ∀ opening ∈ refusedOpenings,
      opening ≠ [] ∧ Text.Trimmed opening ∧ ')' ∉ opening := by
    decide
  exact hall opening h

theorem refusesNullable_iff {type : List Char} : RefusesNullable type ↔
    ∃ opening ∈ refusedOpenings, ∃ blanks rest, (∀ c ∈ blanks, isBlank c = true) ∧
      type = blanks ++ opening ++ rest := by
  refine exists_congr fun opening => and_congr_right fun hopening => ?_
  obtain ⟨hne, htrimmed, -⟩ := trimmed_refusedOpenings hopening
  exact Text.prefix_trimChars_iff hne htrimmed

theorem beginsWith_iff_front {opening type : List Char} :
    beginsWith opening type = true ↔ opening <+: type := by
  rw [TypeText.beginsWith_iff]
  exact exists_congr fun rest => eq_comm

/-- A type that is left as it is because of how it begins. -/
def Kept (type : List Char) : Prop :=
  ∃ opening ∈ nullableOpening :: compositeOpenings, opening <+: type

theorem kept_iff {type : List Char} : (beginsWith nullableOpening type ||
    compositeOpenings.any (beginsWith · type)) = true ↔ Kept type := by
  rw [Bool.or_eq_true, List.any_eq_true, Kept, List.exists_mem_cons_iff]
  simp only [beginsWith_iff_front]

theorem ddlTypeChars_of_kept {c : Column}
    (h : ¬(c.nullable = true ∧ c.isPrimaryKey = false ∧ ¬Kept c.dataType.toList)) :
    ddlTypeChars c = c.dataType.toList := by
  rw [← kept_iff] at h
  refine if_pos ?_
  grind

theorem ddlTypeChars_of_not_kept {c : Column} (hnull : c.nullable = true)
    (hkey : c.isPrimaryKey = false) (h : ¬Kept c.dataType.toList) :
    ddlTypeChars c = allowNull c.dataType.toList := by
  rw [← kept_iff] at h
  refine if_neg ?_
  grind

/-! ### Types that conceal nothing -/

/-- In `LowCardinality` the wrapper goes inside. -/
theorem nestsWell_wrap_lowCardinality {inner : List Char}
    (hlow : HoldsPlain (Wrapper.lowCardinality.wrap inner))
    (hconceals : ¬Conceals (Wrapper.lowCardinality.wrap inner)) :
    NestsWell (Wrapper.lowCardinality.wrap inner)
      (allowNull (Wrapper.lowCardinality.wrap inner)) := by
  rw [TypeText.allowNull_wrap_lowCardinality]
  by_cases hbegins : beginsWith nullableOpening inner = true
  · rw [if_pos hbegins]
    exact fun hne => absurd rfl hne
  · rw [if_neg hbegins]
    refine fun _ => ⟨lowCardinalityOpening, inner, [')'], Wrapper.wrap_lowCardinality _,
      Wrapper.wrap_lowCardinality _, ?_⟩
    rintro ⟨opening, hopening, hfront⟩
    rcases List.mem_cons.mp hopening with rfl | hopening
    · -- a `Nullable` inside that the test does not see has blanks in front of it
      obtain ⟨blanks, rest, hblanks, rfl⟩ :=
        (Text.prefix_trimChars_iff (by decide) (by decide)).mp hfront
      refine hconceals (.inner ?_ hblanks)
      rintro rfl
      exact hbegins (beginsWith_iff_front.mpr (List.prefix_append _ _))
    · exact hlow inner rfl opening hopening hfront

/-- Any other type is wrapped as a whole. -/
theorem nestsWell_allowNull {type : List Char}
    (hbare : ∀ inner, type ≠ Wrapper.lowCardinality.wrap inner) (hkept : ¬Kept type)
    (hconceals : ¬Conceals type) : NestsWell type (allowNull type) := by
  rw [TypeText.allowNull_eq_wrap hbare]
  refine fun _ => ⟨[], type, [], (List.append_nil _).symm, (List.append_nil _).symm, ?_⟩
  intro hrefuses
  obtain ⟨opening, hopening, blanks, rest, hblanks, rfl⟩ := refusesNullable_iff.mp hrefuses
  by_cases hnil : blanks = []
  · subst hnil
    rw [List.nil_append] at hkept hbare hconceals
    rcases List.mem_cons.mp hopening with rfl | hopening
    · exact hkept ⟨_, List.mem_cons_self, List.prefix_append _ _⟩
    rcases List.mem_cons.mp hopening with rfl | hopening
    · refine hconceals (.unclosed ?_)
      rintro inner rfl
      exact hbare inner (by rw [Wrapper.wrap_lowCardinality, List.append_assoc])
    · exact hkept ⟨_, List.mem_cons_of_mem _ hopening, List.prefix_append _ _⟩
  · exact hconceals (.front hnil hblanks hopening)

/-- **A type that conceals nothing** is nested as it may be. -/
theorem nestsWell_of_not_conceals {c : Column} (hlow : HoldsPlain c.dataType.toList)
    (hconceals : ¬(c.nullable = true ∧ c.isPrimaryKey = false ∧ Conceals c.dataType.toList)) :
    NestsWell c.dataType.toList (ddlTypeChars c) := by
  by_cases hmade : c.nullable = true ∧ c.isPrimaryKey = false ∧ ¬Kept c.dataType.toList
  · obtain ⟨hnull, hkey, hkept⟩ := hmade
    have hconceals : ¬Conceals c.dataType.toList := fun h => hconceals ⟨hnull, hkey, h⟩
    rw [ddlTypeChars_of_not_kept hnull hkey hkept]
    by_cases hwrap : ∃ inner, c.dataType.toList = Wrapper.lowCardinality.wrap inner
    · obtain ⟨inner, htype⟩ := hwrap
      rw [htype] at hlow hconceals ⊢
      exact nestsWell_wrap_lowCardinality hlow hconceals
    · exact nestsWell_allowNull (fun inner h => hwrap ⟨inner, h⟩) hkept hconceals
  · rw [ddlTypeChars_of_kept hmade]
    exact fun hne => absurd rfl hne

/-! ### Where a wrapper was put in -/

/-- A `Nullable` stands in one place only, if none stands there already. -/
theorem eq_of_inserted {front front' rest rest' s s' : List Char}
    (htype : front ++ rest = front' ++ rest')
    (htext : front ++ (nullableOpening ++ s) = front' ++ (nullableOpening ++ s'))
    (hfront' : 'N' ∉ front') (hrest' : ¬nullableOpening <+: rest') : front = front' := by
  rcases List.append_eq_append_iff.mp htext with ⟨d, rfl, hd⟩ | ⟨d, rfl, hd⟩
  · cases d with
    | nil => rw [List.append_nil]
    | cons c d =>
      obtain rfl : 'N' = c := (List.cons.inj hd).1
      exact absurd (List.mem_append_right front List.mem_cons_self) hfront'
  · rw [List.append_assoc] at htype
    have hrest := List.append_cancel_left htype
    rcases List.append_eq_append_iff.mp hd with ⟨m, rfl, -⟩ | ⟨m, hm, hs⟩
    · refine absurd ?_ hrest'
      rw [← hrest, List.append_assoc]
      exact List.prefix_append _ _
    · cases m with
      | nil =>
        rw [List.append_nil] at hm
        subst hm
        exact absurd (hrest ▸ List.prefix_append _ _) hrest'
      | cons c m =>
        -- the opening would begin again within itself
        obtain rfl : 'N' = c := (List.cons.inj hs).1
        cases d with
        | nil => rw [List.append_nil]
        | cons c d =>
          have hmem : 'N' ∈ "ullable(".toList := by
            rw [show "ullable(".toList = d ++ 'N' :: m from (List.cons.inj hm).2]
            simp
          exact absurd hmem (by decide)

/-- What stands in front of a parenthesis begins as all of it does, up to the first
parenthesis. -/
theorem exists_append_of_append_eq {begin arg s back : List Char} (hbegin : ')' ∉ begin)
    (h : begin ++ s = arg ++ ')' :: back) : ∃ rest, arg = begin ++ rest := by
  rcases List.append_eq_append_iff.mp h with ⟨rest, rfl, -⟩ | ⟨d, rfl, hd⟩
  · exact ⟨rest, rfl⟩
  · cases d with
    | nil => exact ⟨[], by rw [List.append_nil, List.append_nil]⟩
    | cons c d =>
      obtain rfl : ')' = c := (List.cons.inj hd).1
      exact absurd (List.mem_append_right arg List.mem_cons_self) hbegin

theorem not_nestsWell {type text front rest blanks opening s : List Char}
    (htype : type = front ++ rest)
    (htext : text = front ++ (nullableOpening ++ (blanks ++ opening ++ s)))
    (hfront : 'N' ∉ front) (hrest : ¬nullableOpening <+: rest)
    (hblanks : ∀ c ∈ blanks, isBlank c = true) (hopening : opening ∈ refusedOpenings) :
    ¬NestsWell type text := by
  have hne : text ≠ type := by
    rintro rfl
    rw [htext] at htype
    exact hrest ⟨_, List.append_cancel_left htype⟩
  intro hnests
  obtain ⟨front', arg, back, htype', htext', harg⟩ := hnests hne
  rw [htype, List.append_assoc] at htype'
  rw [htext, Wrapper.wrap_nullable] at htext'
  simp only [List.append_assoc, List.singleton_append] at htext'
  obtain rfl := eq_of_inserted htype'.symm (by simpa using htext'.symm) hfront hrest
  have harg' := List.append_cancel_left (List.append_cancel_left htext')
  have hclose : ')' ∉ blanks ++ opening := by
    intro hmem
    rcases List.mem_append.mp hmem with hmem | hmem
    · exact absurd (hblanks _ hmem) (by decide)
    · exact (trimmed_refusedOpenings hopening).2.2 hmem
  obtain ⟨rest', rfl⟩ := exists_append_of_append_eq hclose (by simpa using harg')
  exact harg (refusesNullable_iff.mpr ⟨opening, hopening, blanks, rest', hblanks, rfl⟩)

/-! ### Types that conceal how they begin -/

theorem head_of_kept {c : Char} {s : List Char} (h : Kept (c :: s)) :
    c ≠ 'L' ∧ isBlank c = false := by
  obtain ⟨opening, hopening, rest, hrest⟩ := h
  have hall : ∀ opening ∈ nullableOpening :: compositeOpenings,
      opening.head?.any (fun c => c ≠ 'L' ∧ isBlank c = false) = true := by
    decide
  have hhead := hall opening hopening
  cases opening with
  | nil => cases hhead
  | cons d opening =>
    obtain rfl : d = c := (List.cons.inj hrest).1
    simpa using hhead

theorem isBlank_head {blanks s s' : List Char} {c : Char} (hne : blanks ≠ [])
    (hblanks : ∀ c ∈ blanks, isBlank c = true) (h : blanks ++ s = c :: s') :
    isBlank c = true := by
  obtain ⟨d, blanks, rfl⟩ := List.exists_cons_of_ne_nil hne
  obtain rfl : d = c := (List.cons.inj h).1
  exact hblanks d List.mem_cons_self

theorem not_kept_of_blanks {blanks s : List Char} (hne : blanks ≠ [])
    (hblanks : ∀ c ∈ blanks, isBlank c = true) : ¬Kept (blanks ++ s) := by
  intro hkept
  generalize htext : blanks ++ s = text at hkept
  cases text with
  | nil => exact hne (List.append_eq_nil_iff.mp htext).1
  | cons c text =>
    have hblank := isBlank_head hne hblanks htext
    rw [(head_of_kept hkept).2] at hblank
    cases hblank

theorem not_kept_of_lowCardinality (s : List Char) : ¬Kept (lowCardinalityOpening ++ s) :=
  fun hkept => (head_of_kept hkept).1 rfl

theorem not_prefix_of_not_kept {type : List Char} (h : ¬Kept type) : ¬nullableOpening <+: type :=
  fun hfront => h ⟨_, List.mem_cons_self, hfront⟩

theorem Conceals.not_kept {type : List Char} (h : Conceals type) : ¬Kept type := by
  cases h with
  | front hne hblanks _ =>
    rw [List.append_assoc]
    exact not_kept_of_blanks hne hblanks
  | inner _ _ =>
    rw [Wrapper.wrap_lowCardinality, List.append_assoc]
    exact not_kept_of_lowCardinality _
  | unclosed _ => exact not_kept_of_lowCardinality _

/-- A type that is wrapped as a whole, and begins with what `Nullable` may not hold. -/
theorem not_nestsWell_wrap {blanks opening s : List Char}
    (hkept : ¬Kept (blanks ++ opening ++ s)) (hblanks : ∀ c ∈ blanks, isBlank c = true)
    (hopening : opening ∈ refusedOpenings) :
    ¬NestsWell (blanks ++ opening ++ s) (Wrapper.nullable.wrap (blanks ++ opening ++ s)) := by
  refine @not_nestsWell _ _ [] _ _ _ (s ++ [')']) rfl ?_ (by simp)
    (not_prefix_of_not_kept hkept) hblanks hopening
  rw [Wrapper.wrap_nullable]
  simp

/-- **A type that conceals how it begins** is wrapped where it may not be. -/
theorem Conceals.not_nestsWell {type : List Char} (h : Conceals type) :
    ¬NestsWell type (allowNull type) := by
  have hkept := h.not_kept
  cases h with
  | @front blanks opening rest hne hblanks hopening =>
    have hbare : ∀ inner, blanks ++ opening ++ rest ≠ Wrapper.lowCardinality.wrap inner := by
      intro inner hwrap
      rw [List.append_assoc] at hwrap
      exact absurd (isBlank_head hne hblanks hwrap) (by decide)
    rw [TypeText.allowNull_eq_wrap hbare]
    exact not_nestsWell_wrap hkept hblanks hopening
  | @inner blanks rest hne hblanks =>
    have hinner : ¬Kept (blanks ++ nullableOpening ++ rest ++ [')']) := by
      rw [List.append_assoc, List.append_assoc]
      exact not_kept_of_blanks hne hblanks
    have hbegins : ¬beginsWith nullableOpening (blanks ++ nullableOpening ++ rest) = true := by
      rw [beginsWith_iff_front]
      intro hfront
      exact not_prefix_of_not_kept hinner (hfront.trans (List.prefix_append _ _))
    rw [TypeText.allowNull_wrap_lowCardinality, if_neg hbegins]
    refine @ClickHouse.not_nestsWell _ _ lowCardinalityOpening _ _ nullableOpening
      (rest ++ [')', ')']) (by rw [Wrapper.wrap_lowCardinality, List.append_assoc]) ?_
      (by decide) (not_prefix_of_not_kept hinner) hblanks List.mem_cons_self
    rw [Wrapper.wrap_lowCardinality, Wrapper.wrap_nullable]
    simp
  | @unclosed rest hrest =>
    have hbare : ∀ inner, lowCardinalityOpening ++ rest ≠ Wrapper.lowCardinality.wrap inner := by
      intro inner hwrap
      rw [Wrapper.wrap_lowCardinality, List.append_assoc] at hwrap
      exact hrest inner (List.append_cancel_left hwrap)
    rw [TypeText.allowNull_eq_wrap hbare]
    exact @not_nestsWell_wrap [] _ _ hkept (by simp) (by decide)

/-! ### In a definition -/

theorem infix_intercalate {separator s : List Char} {ps : List (List Char)} (h : s ∈ ps) :
    s <:+: separator.intercalate ps := by
  induction ps with
  | nil => cases h
  | cons p ps ih =>
    cases ps with
    | nil =>
      rw [List.mem_singleton.mp h, List.intercalate_singleton]
    | cons q ps =>
      rw [List.intercalate_cons_cons, List.append_assoc]
      rcases List.mem_cons.mp h with rfl | h
      · exact (List.prefix_append _ _).isInfix
      · rw [← List.append_assoc]
        exact (ih h).trans (List.suffix_append _ _).isInfix

/-- The definition of a table has the definition of each column in it. -/
theorem infix_columnDefinition_createTable (t : Table) {cs : List Column} {c : Column}
    (hc : c ∈ cs) :
    (columnDefinition c).toList <:+: (createTable t cs).toList := by
  have hmem : (columnDefinition c).toList ∈ cs.map fun c => (columnDefinition c).toList :=
    List.mem_map_of_mem hc
  refine (@infix_intercalate [',', '\n'] _ _ hmem).trans ?_
  refine ⟨"CREATE TABLE ".toList ++ quoting.quoteQualifiedChars t.tableName.toList ++
    [' ', '(', '\n'], ['\n', ')'] ++ ' ' :: storageClause.toList ++
    (commentClause t.comment).toList, ?_⟩
  rw [toList_createTable]
  simp only [List.append_assoc, List.cons_append, List.nil_append]

theorem createTable_mem_tableDdl (t : Table) {cs : List Column} (drop : Bool) (hne : cs ≠ []) :
    createTable t cs ∈ tableDdl t cs drop := by
  have hempty : ¬cs.isEmpty = true := by rwa [List.isEmpty_iff]
  rw [tableDdl, if_neg hempty]
  cases drop <;> simp

/-- **When a definition nests `Nullable` as it may.** The definition of a table has each column
in it with its type. This is the type that the column has, or that type with one `Nullable`
put in around something that is neither nullable nor `LowCardinality` nor composite, exactly
if the column is not to be made nullable or if its type conceals nothing. Types in which
`LowCardinality` holds itself or a composite type are left out. -/
theorem nullable_nests_iff (t : Table) {cs : List Column} (drop : Bool) {c : Column} (hc : c ∈ cs)
    (hlow : HoldsPlain c.dataType.toList) :
    (∃ sql ∈ tableDdl t cs drop,
      ("  " ++ quoting.quote c.columnName ++ " " ++ ddlType c).toList <:+: sql.toList) ∧
    (NestsWell c.dataType.toList (ddlType c).toList ↔
      ¬(c.nullable = true ∧ c.isPrimaryKey = false ∧ Conceals c.dataType.toList)) := by
  constructor
  · refine ⟨_, createTable_mem_tableDdl t drop (List.ne_nil_of_mem hc), ?_⟩
    refine List.IsInfix.trans ?_ (infix_columnDefinition_createTable t hc)
    refine ⟨[], (defaultClause c).toList ++ (commentClause c.comment).toList, ?_⟩
    simp only [columnDefinition, String.toList_append, List.nil_append, List.append_assoc]
  · rw [ddlType, String.toList_ofList]
    constructor
    · rintro hnests ⟨hnull, hkey, hconceals⟩
      rw [ddlTypeChars_of_not_kept hnull hkey hconceals.not_kept] at hnests
      exact hconceals.not_nestsWell hnests
    · exact nestsWell_of_not_conceals hlow

def nullableColumn (type : String) : Column := ⟨"t", "a", type, none, true, false, none, false⟩

/-- A nullable `LowCardinality` that begins as it is seen to begin. -/
theorem nullable_nests_iff_lowCardinality :
    HoldsPlain "LowCardinality(String)".toList ∧
      NestsWell "LowCardinality(String)".toList "LowCardinality(Nullable(String))".toList := by
  have hinner {inner : List Char} (hwrap : Wrapper.lowCardinality.wrap "String".toList =
      Wrapper.lowCardinality.wrap inner) : "String".toList = inner :=
    (Wrapper.wrap_injective hwrap).2
  have hlow : HoldsPlain "LowCardinality(String)".toList := by
    intro inner hwrap
    obtain rfl := hinner hwrap
    decide
  have hsees : ¬Conceals "LowCardinality(String)".toList := by
    generalize htype : "LowCardinality(String)".toList = type
    rintro (⟨hne, hblanks, -⟩ | ⟨hne, hblanks⟩ | hopen)
    · rw [List.append_assoc] at htype
      exact absurd (isBlank_head hne hblanks htype.symm) (by decide)
    · have hbegin := hinner htype
      rw [List.append_assoc] at hbegin
      exact absurd (isBlank_head hne hblanks hbegin.symm) (by decide)
    · have hbehind : lowCardinalityOpening ++ "String)".toList = lowCardinalityOpening ++ _ := htype
      exact hopen "String".toList (List.append_cancel_left hbehind).symm
  obtain ⟨-, hiff⟩ := nullable_nests_iff { tableName := "t" } false
    (List.mem_singleton_self (nullableColumn "LowCardinality(String)")) hlow
  exact ⟨hlow, hiff.mpr fun h => hsees h.2.2⟩

/-- **A blank in front of `Nullable` conceals it**, and a second one is put around the first. -/
theorem nullable_inside_nullable :
    HoldsPlain " Nullable(Int32)".toList ∧
      tableDdl { tableName := "t" } [nullableColumn " Nullable(Int32)"] false =
        ["CREATE TABLE `t` (\n  `a` Nullable( Nullable(Int32))\n) ENGINE = MergeTree() " ++
          "ORDER BY tuple()"] ∧
      ¬NestsWell " Nullable(Int32)".toList "Nullable( Nullable(Int32))".toList := by
  have hbegin : ∀ inner, " Nullable(Int32)".toList ≠ Wrapper.lowCardinality.wrap inner :=
    fun inner hwrap => absurd (List.cons.inj hwrap).1 (by decide)
  have hconceals : Conceals " Nullable(Int32)".toList :=
    @Conceals.front [' '] nullableOpening "Int32)".toList (List.cons_ne_nil _ _)
      (List.forall_mem_singleton.mpr (by decide)) List.mem_cons_self
  refine ⟨?_, ?_, hconceals.not_nestsWell⟩
  · intro inner hwrap
    exact absurd hwrap (hbegin inner)
  · decide +kernel

end SqlDialect.ClickHouse
