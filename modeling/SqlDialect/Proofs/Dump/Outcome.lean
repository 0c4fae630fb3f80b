import SqlDialect.Proofs.ClickHouse.InsertFault
import SqlDialect.Proofs.Dump.Batches
import SqlDialect.Proofs.Dump.Truncation
/-!
# How a dump ends

A dump with ClickHouse's statements fails for the faults of an insert of all its rows, and
for none of them the size of the batches makes a difference (`DumpFault`), but for one: a
row whose width is wrong is reported by its number in its batch. `outcome_eq_iff`: two sizes
agree on how a dump ends unless this number differs between them.

The batches come one after the other, so a fault is one of the first batch, or the first is
right and the fault is one of the others (`dumpFault_append_iff`). All batches but the last
are full, which is why the number is the remainder by the size.
-/

namespace SqlDialect

/-- The place of the first row whose width is wrong, and its width. -/
def FirstMisfit (columns : Nat) (widths : List Nat) (place width : Nat) : Prop :=
  ∃ before after, widths = before ++ width :: after ∧ before.length = place ∧
    (∀ w ∈ before, w = columns) ∧ width ≠ columns

theorem firstMisfit_append_iff {columns place width : Nat} {widths widths' : List Nat} :
    FirstMisfit columns (widths ++ widths') place width ↔
      FirstMisfit columns widths place width ∨ (∀ w ∈ widths, w = columns) ∧
        ∃ place', widths.length + place' = place ∧ FirstMisfit columns widths' place' width := by
  constructor
  · rintro ⟨before, after, hsplit, rfl, hbefore, hwidth⟩
    rcases List.append_eq_append_iff.mp hsplit with ⟨front, rfl, hrest⟩ | ⟨back, hback, hrest⟩
    · rw [List.forall_mem_append] at hbefore
      exact Or.inr ⟨hbefore.1, front.length, List.length_append.symm, front, after, hrest, rfl,
        hbefore.2, hwidth⟩
    · cases back with
      | nil =>
        rw [List.append_nil] at hback
        subst hback
        exact Or.inr ⟨hbefore, 0, rfl, [], after, hrest.symm, rfl, List.forall_mem_nil _, hwidth⟩
      | cons w back =>
        obtain ⟨rfl, rfl⟩ := List.cons_eq_cons.mp hrest
        exact Or.inl ⟨before, back, hback, rfl, hbefore, hwidth⟩
  · rintro (⟨before, after, rfl, rfl, hbefore, hwidth⟩ |
      ⟨hall, place', rfl, before, after, rfl, rfl, hbefore, hwidth⟩)
    · exact ⟨before, after ++ widths', by simp, rfl, hbefore, hwidth⟩
    · refine ⟨widths ++ before, after, by simp, List.length_append, ?_, hwidth⟩
      rw [List.forall_mem_append]
      exact ⟨hall, hbefore⟩

theorem FirstMisfit.lt {columns place width : Nat} {widths : List Nat}
    (h : FirstMisfit columns widths place width) : place < widths.length := by
  obtain ⟨before, after, rfl, rfl, -, -⟩ := h
  simp

theorem DbError.rowWidth_inj {index index' values columns : Nat} :
    rowWidth index values columns = rowWidth index' values columns ↔ index = index' := by
  refine ⟨fun h => ?_, fun h => h ▸ rfl⟩
  simp only [rowWidth, other.injEq, String.append_left_inj, String.append_right_inj] at h
  have hdigits : Nat.toDigits 10 index = Nat.toDigits 10 index' := by
    rw [← Nat.toList_repr, ← Nat.toList_repr]
    exact congrArg String.toList h
  have hread := congrArg Text.readDigits? hdigits
  rw [Text.readDigits?_toDigits, Text.readDigits?_toDigits] at hread
  exact Option.some.inj hread

namespace ClickHouse

open DumpHelper (inserts)

/-- The fault of a dump of rows: that of an insert of all of them, but the number of a row
counts from the start of its batch. -/
inductive DumpFault (table : String) (cs : List Column) (size : Nat) (widths : List Nat) :
    DbError → Prop
  /-- A fault of the columns is there whatever the rows are. -/
  | columns {e : DbError} : InsertFault table cs [] e → DumpFault table cs size widths e
  | row {place width : Nat} : cs ≠ [] → (∀ c ∈ cs, Resolves c) →
      FirstMisfit cs.length widths place width →
      DumpFault table cs size widths (.rowWidth (place % max 1 size) width cs.length)

/-- Rows of these widths can be inserted. -/
structure Insertable (cs : List Column) (widths : List Nat) : Prop where
  named : cs ≠ []
  known : ∀ c ∈ cs, Resolves c
  fit : ∀ w ∈ widths, w = cs.length

variable {table : String} {cs : List Column} {size : Nat} {widths widths' : List Nat} {e : DbError}

theorem InsertFault.of_columns (h : InsertFault table cs [] e) : InsertFault table cs widths e := by
  rcases h with hcs | ⟨hsplit, hbefore, hc⟩ | ⟨-, -, hsplit, -, -⟩
  · exact .noColumns hcs
  · exact .unknownType hsplit hbefore hc
  · simp at hsplit

theorem InsertFault.of_firstMisfit {place width : Nat} (hcs : cs ≠ [])
    (hknown : ∀ c ∈ cs, Resolves c) (h : FirstMisfit cs.length widths place width) :
    InsertFault table cs widths (.rowWidth place width cs.length) := by
  obtain ⟨before, after, hsplit, rfl, hbefore, hwidth⟩ := h
  exact .rowWidth hcs hknown hsplit hbefore hwidth

theorem exists_insert_eq_ok_iff {batch : List (List Cell)} (hbatch : batch ≠ []) :
    (∃ ss, insert table cs batch .none = .ok ss) ↔ Insertable cs (batch.map List.length) := by
  constructor
  · rintro ⟨ss, hss⟩
    obtain ⟨hcs, hwidth, ts, hts, -⟩ := (insert_eq_ok_iff_of_ne_nil hbatch).mp hss
    exact ⟨hcs, forall_mem_of_mapM_eq_ok hts, List.forall_mem_map.mpr hwidth⟩
  · intro h
    obtain ⟨ts, hts⟩ := exists_mapM_eq_ok h.known
    exact ⟨_, (insert_eq_ok_iff_of_ne_nil hbatch).mpr
      ⟨h.named, List.forall_mem_map.mp h.fit, ts, hts, rfl⟩⟩

/-- Within one batch a fault of the dump is a fault of the insert. -/
theorem dumpFault_iff_insertFault (hlen : widths.length ≤ max 1 size) :
    DumpFault table cs size widths e ↔ InsertFault table cs widths e := by
  constructor
  · rintro (h | @⟨place, width, hcs, hknown, hmisfit⟩)
    · exact h.of_columns
    · rw [Nat.mod_eq_of_lt (hmisfit.lt.trans_le hlen)]
      exact .of_firstMisfit hcs hknown hmisfit
  · rintro (hcs | ⟨hsplit, hbefore, hc⟩ |
      @⟨before, after, width, hcs, hknown, hsplit, hbefore, hwidth⟩)
    · exact .columns (.noColumns hcs)
    · exact .columns (.unknownType hsplit hbefore hc)
    · have hmisfit : FirstMisfit cs.length widths before.length width :=
        ⟨before, after, hsplit, rfl, hbefore, hwidth⟩
      have hfault := @DumpFault.row table cs size widths _ _ hcs hknown hmisfit
      rwa [Nat.mod_eq_of_lt (hmisfit.lt.trans_le hlen)] at hfault

/-- **Behind a full batch** the faults are those of the rest, unless the batch has one. -/
theorem dumpFault_append_iff (hfull : widths.length = max 1 size) :
    DumpFault table cs size (widths ++ widths') e ↔
      DumpFault table cs size widths e ∨
        Insertable cs widths ∧ DumpFault table cs size widths' e := by
  constructor
  · rintro (h | @⟨place, width, hcs, hknown, hmisfit⟩)
    · exact Or.inl (.columns h)
    · rcases firstMisfit_append_iff.mp hmisfit with h | ⟨hfit, place', rfl, h⟩
      · exact Or.inl (.row hcs hknown h)
      · rw [hfull, Nat.add_mod_left]
        exact Or.inr ⟨⟨hcs, hknown, hfit⟩, .row hcs hknown h⟩
  · rintro ((h | @⟨place, width, hcs, hknown, hmisfit⟩) |
      ⟨hbatch, h | @⟨place, width, hcs, hknown, hmisfit⟩⟩)
    · exact .columns h
    · exact .row hcs hknown (firstMisfit_append_iff.mpr (Or.inl hmisfit))
    · exact .columns h
    · have hfault := @DumpFault.row table cs size (widths ++ widths') _ _ hcs hknown
        (firstMisfit_append_iff.mpr (Or.inr ⟨hbatch.fit, place, rfl, hmisfit⟩))
      rwa [hfull, Nat.add_mod_left] at hfault

theorem inserts_cons_eq_error_iff {batch : List (List Cell)} {bs : List (List (List Cell))}
    (hbatch : batch ≠ []) :
    inserts generator table cs (batch :: bs) = .error e ↔
      InsertFault table cs (batch.map List.length) e ∨
        Insertable cs (batch.map List.length) ∧ inserts generator table cs bs = .error e := by
  have hfault : insert table cs batch .none = .error e ↔
      InsertFault table cs (batch.map List.length) e :=
    insert_eq_error_iff.trans (and_iff_right hbatch)
  rw [← hfault, ← exists_insert_eq_ok_iff hbatch, ← exists_and_right]
  exact mapM_cons_eq_error_iff

/-- **Which error the batches of a dump fail with.** -/
theorem inserts_eq_error_iff {rows : List (List Cell)} :
    inserts generator table cs (batches size rows) = .error e ↔
      rows ≠ [] ∧ DumpFault table cs size (rows.map List.length) e := by
  induction rows using batches.induct size with
  | case1 => simp [batches, inserts, pure, Except.pure]
  | case2 row rows ih =>
    have hrows : (row :: rows.take (size - 1)) ++ rows.drop (size - 1) = row :: rows := by
      rw [List.cons_append, List.take_append_drop]
    rw [batches, inserts_cons_eq_error_iff (List.cons_ne_nil _ _), ih,
      and_iff_right (List.cons_ne_nil row rows), ← hrows, List.map_append]
    have hlen : ((row :: rows.take (size - 1)).map List.length).length ≤ max 1 size := by
      rw [List.length_map, List.length_cons, List.length_take]
      omega
    by_cases hlast : rows.drop (size - 1) = []
    · rw [hlast, List.map_nil, List.append_nil, dumpFault_iff_insertFault hlen]
      exact or_iff_left fun h => h.2.1 rfl
    · have hfull : ((row :: rows.take (size - 1)).map List.length).length = max 1 size := by
        have hmore := mt List.drop_eq_nil_of_le hlast
        rw [List.length_map, List.length_cons, List.length_take]
        omega
      rw [dumpFault_append_iff hfull, dumpFault_iff_insertFault hlen, and_iff_right hlast]

end ClickHouse

/-! ### Two sizes of batches -/

namespace DumpHelper

open ClickHouse (DumpFault Resolves)

variable (h : DumpHelper) (t : Table) (cs : List Column) (rows : List (List Cell)) (drop : Bool)

/-- How a dump with the statements of ClickHouse ends on a sink without a limit. -/
def outcome (size : Nat) : Except DbError Unit :=
  (h.dump ClickHouse.generator t cs rows drop size {}).1

variable {h t cs rows drop} in
/-- **Which error a dump fails with.** -/
theorem outcome_eq_error_iff {size : Nat} {e : DbError} :
    h.outcome t cs rows drop size = .error e ↔
      rows ≠ [] ∧ DumpFault t.tableName cs size (rows.map List.length) e := by
  obtain ⟨out, hout⟩ := h.exists_yields_dump ClickHouse.generator t cs rows drop size
  have houtcome : h.outcome t cs rows drop size =
      (inserts ClickHouse.generator t.tableName cs (batches size rows)).map fun _ => () :=
    congrArg Prod.fst (hout []).1
  rw [houtcome, map_eq_error_iff, ClickHouse.inserts_eq_error_iff]

variable {h t cs rows drop} in
theorem outcome_eq_ok {size : Nat} (hok : h.outcome t cs rows drop size = .ok ()) (size' : Nat) :
    h.outcome t cs rows drop size' = .ok () := by
  cases hout : h.outcome t cs rows drop size' with
  | ok => rfl
  | error e =>
    -- with the first size there is a fault as well
    obtain ⟨hrows, hfault⟩ := outcome_eq_error_iff.mp hout
    obtain ⟨e', hfault⟩ : ∃ e', DumpFault t.tableName cs size (rows.map List.length) e' := by
      rcases hfault with hcolumns | ⟨hcs, hknown, hmisfit⟩
      · exact ⟨_, .columns hcolumns⟩
      · exact ⟨_, .row hcs hknown hmisfit⟩
    have hout' : h.outcome t cs rows drop size = .error e' :=
      outcome_eq_error_iff.mpr ⟨hrows, hfault⟩
    cases hok.symm.trans hout'

/-- **Two sizes of batches agree on how a dump ends**, but for the number of a row. Both
dumps succeed or both fail. They fail alike for a fault of the columns; a row of a wrong
width is reported with its number in its batch, so there they agree exactly if the first
such row has the same number in both. -/
theorem outcome_eq_iff (size size' : Nat) :
    (h.outcome t cs rows drop size = .ok () ↔ h.outcome t cs rows drop size' = .ok ()) ∧
      (∀ e, h.outcome t cs rows drop size = .error e ↔
        rows ≠ [] ∧ DumpFault t.tableName cs size (rows.map List.length) e) ∧
      (h.outcome t cs rows drop size = h.outcome t cs rows drop size' ↔
        (cs ≠ [] → (∀ c ∈ cs, Resolves c) →
          ∀ place width, FirstMisfit cs.length (rows.map List.length) place width →
            place % max 1 size = place % max 1 size')) := by
  refine ⟨⟨fun hok => outcome_eq_ok hok size', fun hok => outcome_eq_ok hok size⟩,
    fun e => outcome_eq_error_iff, fun heq hcs hknown place width hmisfit => ?_, fun hplace => ?_⟩
  · have hrows : rows ≠ [] := by
      rintro rfl
      exact absurd hmisfit.lt (Nat.not_lt_zero _)
    have hout {size : Nat} : h.outcome t cs rows drop size =
        .error (.rowWidth (place % max 1 size) width cs.length) :=
      outcome_eq_error_iff.mpr ⟨hrows, .row hcs hknown hmisfit⟩
    rw [hout, hout, Except.error.injEq, DbError.rowWidth_inj] at heq
    exact heq
  · cases hout : h.outcome t cs rows drop size with
    | ok => rw [outcome_eq_ok hout size']
    | error e =>
      obtain ⟨hrows, hfault⟩ := outcome_eq_error_iff.mp hout
      refine (outcome_eq_error_iff.mpr ⟨hrows, ?_⟩).symm
      rcases hfault with hcolumns | ⟨hcs, hknown, hmisfit⟩
      · exact .columns hcolumns
      · rw [hplace hcs hknown _ _ hmisfit]
        exact .row hcs hknown hmisfit

/-- **One row with two numbers.** The second row of a dump has no value. In batches of one
row it is row 0, in batches of two it is row 1. -/
theorem row_number_differs :
    ({} : DumpHelper).outcome { tableName := "t" } [numbers] [[.int32 1], []] false 1 =
        .error (.other "row 0 has 0 values but 1 columns") ∧
      ({} : DumpHelper).outcome { tableName := "t" } [numbers] [[.int32 1], []] false 2 =
        .error (.other "row 1 has 0 values but 1 columns") := by
  decide +kernel

end DumpHelper

end SqlDialect
