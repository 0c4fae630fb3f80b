import SqlDialect.Proofs.ClickHouse.KeyList
import SqlDialect.Proofs.ClickHouse.TypeName
/-!
# Faults of an insert

An insert of rows fails for one of three faults: no column is named, the type of a column is
unknown, or a row has more or fewer values than there are columns. `InsertFault` says which
of them counts: the first sort that is there and of its sort the first column or row. It
knows of the rows only how many values each has, and nothing of the strategy
(`insert_fails_iff`).

If no fault is there, the key column has a place in every row and in the list of types
(`keyIndex_lt`), so no look-up for the keys misses.
-/

namespace SqlDialect

namespace ClickHouse

def Resolves (c : Column) : Prop := ∃ type, vocabulary.resolve c = .ok type

/-- The fault of an insert, given how many values each row has. -/
inductive InsertFault (table : String) (cs : List Column) (widths : List Nat) : DbError → Prop
  | noColumns : cs = [] → InsertFault table cs widths (.noColumns table)
  | unknownType {before after : List Column} {c : Column} : cs = before ++ c :: after →
      (∀ b ∈ before, Resolves b) → ¬Resolves c →
      InsertFault table cs widths (.unknownDataType "clickhouse" (normalizeType c.dataType).1)
  | rowWidth {before after : List Nat} {width : Nat} : cs ≠ [] → (∀ c ∈ cs, Resolves c) →
      widths = before ++ width :: after → (∀ w ∈ before, w = cs.length) → width ≠ cs.length →
      InsertFault table cs widths (.rowWidth before.length width cs.length)

theorem resolve_eq_error_iff {c : Column} {e : DbError} : vocabulary.resolve c = .error e ↔
    ¬Resolves c ∧ e = .unknownDataType "clickhouse" (normalizeType c.dataType).1 := by
  have hresolve : vocabulary.resolve c = types.resolve (normalizeType c.dataType).1 := by
    rw [vocabulary]
  have hengine : types.engine = "clickhouse" := rfl
  rw [Resolves, hresolve, TypeTable.resolve_eq_error_iff, hengine]

/-- **The first row whose width is wrong** is the one that is reported. -/
theorem firstMisfit?_eq_some_iff {columns index : Nat} {rows : List (List Cell)} {e : DbError} :
    firstMisfit? columns index rows = some e ↔ ∃ before width after,
      rows.map List.length = before ++ width :: after ∧ (∀ w ∈ before, w = columns) ∧
        width ≠ columns ∧ e = .rowWidth (index + before.length) width columns := by
  induction rows generalizing index with
  | nil => simp [firstMisfit?]
  | cons row rows ih =>
    rw [firstMisfit?, List.map_cons, exists_first_cons_iff]
    split
    · rename_i hrow
      have hplace (before : List Nat) :
          index + 1 + before.length = index + (row.length :: before).length := by
        rw [List.length_cons]
        omega
      rw [ih, or_iff_right fun h => h.1 hrow, and_iff_right hrow]
      simp only [hplace]
    · rename_i hrow
      rw [or_iff_left fun h => hrow h.1, and_iff_right hrow, Option.some.injEq, eq_comm]
      rfl

/-! ### When an insert fails -/

variable {table : String} {cs : List Column} {rows : List (List Cell)} {e : DbError}

/-- With columns named, a fault is one of the types or else one of the widths. -/
theorem insertFault_iff (hcs : cs ≠ []) : InsertFault table cs (rows.map List.length) e ↔
    cs.mapM vocabulary.resolve = .error e ∨
      (∃ ts, cs.mapM vocabulary.resolve = .ok ts) ∧ firstMisfit? cs.length 0 rows = some e := by
  constructor
  · rintro (hnone | ⟨hsplit, hbefore, hc⟩ | ⟨-, hknown, hsplit, hbefore, hwidth⟩)
    · exact absurd hnone hcs
    · exact Or.inl (mapM_eq_error_iff_first.mpr
        ⟨_, _, _, hsplit, hbefore, resolve_eq_error_iff.mpr ⟨hc, rfl⟩⟩)
    · refine Or.inr ⟨exists_mapM_eq_ok hknown, firstMisfit?_eq_some_iff.mpr
        ⟨_, _, _, hsplit, hbefore, hwidth, ?_⟩⟩
      rw [Nat.zero_add]
  · rintro (htypes | ⟨⟨ts, hts⟩, hmisfit⟩)
    · obtain ⟨before, c, after, hsplit, hbefore, hc⟩ := mapM_eq_error_iff_first.mp htypes
      obtain ⟨hunknown, rfl⟩ := resolve_eq_error_iff.mp hc
      exact .unknownType hsplit hbefore hunknown
    · obtain ⟨before, width, after, hsplit, hbefore, hwidth, rfl⟩ :=
        firstMisfit?_eq_some_iff.mp hmisfit
      rw [Nat.zero_add]
      exact .rowWidth hcs (forall_mem_of_mapM_eq_ok hts) hsplit hbefore hwidth

/-- **Which error an insert fails with.** -/
theorem insert_eq_error_iff {strategy : DuplicateStrategy} :
    insert table cs rows strategy = .error e ↔
      rows ≠ [] ∧ InsertFault table cs (rows.map List.length) e := by
  unfold insert
  by_cases hrows : rows = []
  · simp [hrows]
  rw [List.isEmpty_eq_false_iff.mpr hrows, if_neg Bool.false_ne_true, and_iff_right hrows]
  by_cases hcs : cs = []
  · rw [hcs, List.isEmpty_nil, if_pos rfl, Except.error.injEq]
    constructor
    · rintro rfl
      exact .noColumns rfl
    · rintro (- | ⟨hsplit, -, -⟩ | ⟨hne, -, -, -, -⟩)
      · rfl
      · simp at hsplit
      · exact absurd rfl hne
  rw [List.isEmpty_eq_false_iff.mpr hcs, if_neg Bool.false_ne_true, insertFault_iff hcs]
  cases hts : cs.mapM vocabulary.resolve with
  | error e' => simp [bind, Except.bind]
  | ok ts =>
    cases hmisfit : firstMisfit? cs.length 0 rows with
    | some e' => simp [bind, Except.bind]
    | none => cases strategy <;> simp [bind, Except.bind, pure, Except.pure]

/-- Whether an insert fails. -/
theorem exists_insert_eq_error_iff {strategy : DuplicateStrategy} :
    (∃ e, insert table cs rows strategy = .error e) ↔ rows ≠ [] ∧
      (cs = [] ∨ (∃ c ∈ cs, ¬Resolves c) ∨ ∃ row ∈ rows, row.length ≠ cs.length) := by
  constructor
  · rintro ⟨e, he⟩
    obtain ⟨hrows, hfault⟩ := insert_eq_error_iff.mp he
    refine ⟨hrows, ?_⟩
    cases hfault with
    | noColumns hcs => exact Or.inl hcs
    | unknownType hsplit _ hc => exact Or.inr (Or.inl ⟨_, by simp [hsplit], hc⟩)
    | @rowWidth before after width _ _ hsplit _ hwidth =>
      have hmem : width ∈ rows.map List.length := by simp [hsplit]
      obtain ⟨row, hrow, rfl⟩ := List.mem_map.mp hmem
      exact Or.inr (Or.inr ⟨row, hrow, hwidth⟩)
  · rintro ⟨hrows, hfault⟩
    cases hinsert : insert table cs rows strategy with
    | error e => exact ⟨e, rfl⟩
    | ok statements =>
      -- what succeeds has none of the three faults
      obtain ⟨hcs, hwidth, ts, hts, -⟩ := (insert_eq_ok_iff_of_ne_nil hrows).mp hinsert
      rcases hfault with hnone | ⟨c, hc, hunknown⟩ | ⟨row, hrow, hmisfit⟩
      · exact absurd hnone hcs
      · exact absurd (forall_mem_of_mapM_eq_ok hts c hc) hunknown
      · exact absurd (hwidth row hrow) hmisfit

/-- The key column is one of the columns. -/
theorem keyIndex_lt (hcs : cs ≠ []) : keyIndex cs < cs.length := by
  obtain ⟨key, hkey⟩ := exists_isKeyColumn hcs
  exact (List.getElem?_eq_some_iff.mp hkey.1).1

/-- **When an insert fails.** Without rows it never does, and then there is no statement.
With rows it fails exactly if no column is named, the type of some column is unknown, or
some row has more or fewer values than there are columns; the error is the one of
`InsertFault`. Neither the strategy nor what the cells hold makes a difference, only how
many cells each row has. If columns are named and each row has as many values, the place
of the key column is a place of every row and of the list of types. -/
theorem insert_fails_iff (table : String) (cs : List Column) (rows : List (List Cell))
    (strategy : DuplicateStrategy) :
    (rows = [] → insert table cs rows strategy = .ok []) ∧
      ((∃ e, insert table cs rows strategy = .error e) ↔ rows ≠ [] ∧
        (cs = [] ∨ (∃ c ∈ cs, ¬Resolves c) ∨ ∃ row ∈ rows, row.length ≠ cs.length)) ∧
      (∀ e, insert table cs rows strategy = .error e ↔
        rows ≠ [] ∧ InsertFault table cs (rows.map List.length) e) ∧
      (∀ strategy' rows', rows'.map List.length = rows.map List.length →
        ∀ e, insert table cs rows' strategy' = .error e ↔
          insert table cs rows strategy = .error e) ∧
      (cs ≠ [] → (∀ row ∈ rows, row.length = cs.length) → keyIndex cs < cs.length ∧
        (∀ row ∈ rows, keyIndex cs < row.length) ∧
        ∀ ts, cs.mapM vocabulary.resolve = .ok ts → keyIndex cs < ts.length) := by
  refine ⟨?_, exists_insert_eq_error_iff, fun e => insert_eq_error_iff, ?_,
    fun hcs hwidth => ⟨keyIndex_lt hcs, ?_, ?_⟩⟩
  · rintro rfl
    rfl
  · intro strategy' rows' hwidths e
    have hempty : rows' = [] ↔ rows = [] := by
      rw [← List.map_eq_nil_iff (f := List.length), hwidths, List.map_eq_nil_iff]
    rw [insert_eq_error_iff, insert_eq_error_iff, hwidths, Ne, hempty]
  · intro row hrow
    rw [hwidth row hrow]
    exact keyIndex_lt hcs
  · intro ts hts
    rw [← (mapM_eq_ok_iff.mp hts).length_eq]
    exact keyIndex_lt hcs

/-- A row that is too short, behind one that is right. -/
theorem insert_fails_of_short_row :
    insert "t" pair [[.int32 1, .int32 2], [.null]] .update =
      .error (.other "row 1 has 1 values but 2 columns") := by
  have hfault : InsertFault "t" pair [2, 1] (.rowWidth 1 1 2) :=
    @InsertFault.rowWidth _ _ _ [2] [] 1 (by decide) (fun c hc => ⟨_, resolve_pair c hc⟩) rfl
      (by decide) (by decide)
  exact ((insert_fails_iff "t" pair _ .update).2.2.1 _).mpr ⟨List.cons_ne_nil _ _, hfault⟩

end ClickHouse

end SqlDialect
