import Mathlib.Algebra.Order.Floor.Div
import SqlDialect.Proofs.ClickHouse.Insert
import SqlDialect.Proofs.Dump.Script
import SqlDialect.Proofs.Recording
/-!
# The batches of a dump

A dump asks its generator for the inserts of one batch after the other. `DumpHelper.program`
is a dump as a program over two operations, to write a line and to ask for an insert; a
dump is this program with a sink and a generator (`program_eq_dump`), and `asking` is the
same program with a record of what is asked for. `Asks` says that a run with the record ends
as the one without, and that it adds to the record what was planned, or the start of it if the
run fails.

`dump_batches`: a dump that succeeds has asked for all rows, each once and in order, in
batches that are not empty and not too long. What ClickHouse then writes has the tuples of
one insert of all rows.
-/

namespace SqlDialect

/-! ### Batches of a list -/

section

variable {α : Type}

theorem flatten_batches (size : Nat) (as : List α) : (batches size as).flatten = as := by
  induction as using batches.induct size with
  | case1 => rw [batches, List.flatten_nil]
  | case2 a as ih =>
    rw [batches, List.flatten_cons, ih, List.cons_append, List.take_append_drop]

theorem mem_batches {size : Nat} {as batch : List α} (h : batch ∈ batches size as) :
    batch ≠ [] ∧ batch.length ≤ max 1 size := by
  induction as using batches.induct size with
  | case1 => simp [batches] at h
  | case2 a as ih =>
    rw [batches, List.mem_cons] at h
    rcases h with rfl | h
    · refine ⟨List.cons_ne_nil _ _, ?_⟩
      rw [List.length_cons, List.length_take]
      omega
    · exact ih h

theorem mem_of_mem_batches {size : Nat} {as batch : List α} (h : batch ∈ batches size as) {a : α}
    (ha : a ∈ batch) : a ∈ as := by
  rw [← flatten_batches size as]
  exact List.mem_flatten_of_mem h ha

theorem length_batches (size : Nat) (as : List α) :
    (batches size as).length = as.length ⌈/⌉ max 1 size := by
  induction as using batches.induct size with
  | case1 => rw [batches, List.length_nil, List.length_nil, zero_ceilDiv]
  | case2 a as ih =>
    have hpos : 0 < max 1 size := by omega
    rw [batches, List.length_cons, ih, List.length_drop, List.length_cons,
      Nat.ceilDiv_eq_add_pred_div, Nat.ceilDiv_eq_add_pred_div, ← Nat.add_div_right _ hpos]
    by_cases hlast : as.length < max 1 size
    · -- the last batch, which is full or not
      rw [Nat.div_eq_of_lt_le (k := 1) (by omega) (by omega),
        Nat.div_eq_of_lt_le (k := 1) (by omega) (by omega)]
    · congr 1
      omega

end

/-! ### What a dump asks for -/

/-- What a generator is asked for: an insert. -/
structure InsertCall where
  table : String
  columns : List Column
  rows : List (List Cell)
  strategy : DuplicateStrategy

def InsertCall.answer (g : Generator) (call : InsertCall) : Except DbError (List String) :=
  g.insert call.table call.columns call.rows call.strategy

/-- Something that writes to a sink and keeps a record of the inserts it asks for. -/
abbrev Asking (α : Type) := ExceptT DbError (StateM (List InsertCall × Sink)) α

namespace Asking

/-- Writing asks for nothing. -/
def written {α : Type} (a : Writing α) : Asking α := fun (log, sink) =>
  ((a sink).1, (log, (a sink).2))

def asked (g : Generator) (call : InsertCall) : Asking (List String) := fun (log, sink) =>
  (call.answer g, (log ++ [call], sink))

end Asking

namespace DumpHelper

/-- A dump as a program over what writes a line and what asks for an insert. -/
def program {m : Type → Type} [Monad m] (h : DumpHelper) (write : String → m Unit)
    (ask : InsertCall → m (List String)) (g : Generator) (t : Table) (cs : List Column)
    (rows : List (List Cell)) (drop : Bool) (size : Nat) : m Unit := do
  write ("-- Table structure for " ++ t.tableName)
  statements (g.tableDdl t cs drop)
  if rows.isEmpty then pure ()
  else
    write ""
    write ("-- Records of " ++ t.tableName)
    writeUnlessEmpty (h.beforeInsert t.tableName)
    (batches size rows).forM fun batch => do
      let ss ← ask ⟨t.tableName, cs, batch, .none⟩
      statements ss
    writeUnlessEmpty (h.afterInsert t.tableName)
where
  statements (ss : List String) : m Unit := ss.forM fun s => write (s ++ h.terminator)
  writeUnlessEmpty (s : String) : m Unit := if s = "" then pure () else write s

variable (h : DumpHelper) (g : Generator) (t : Table) (cs : List Column) (rows : List (List Cell))
  (drop : Bool) (size : Nat)

/-- With a sink to write to and a generator to ask, the program is the dump. -/
theorem program_eq_dump :
    h.program Writing.line (fun call => batch.liftExcept (call.answer g)) g t cs rows drop size =
      h.dump g t cs rows drop size := rfl

/-- The dump with a record of the inserts that it asks for. -/
def asking : Asking Unit :=
  h.program (fun s => Asking.written (Writing.line s)) (Asking.asked g) g t cs rows drop size

end DumpHelper

/-- A run with a record ends as the one without and leaves the same sink. The record grows
by what was planned, or by the start of it if the run fails. -/
def Asking.Asks {α : Type} (b : Asking α) (a : Writing α) (planned : List InsertCall) : Prop :=
  ∀ sink, ∃ calls r sink', Action.Records Prod.mk a b sink calls r sink' ∧ calls <+: planned ∧
    ∀ x, r = .ok x → calls = planned

namespace Asking

variable {α β : Type}

theorem asks_written (a : Writing α) : (written a).Asks a [] := by
  intro sink
  refine ⟨[], (a sink).1, (a sink).2, ⟨rfl, fun log => ?_⟩, List.nil_prefix, fun _ _ => rfl⟩
  rw [List.append_nil]
  rfl

theorem asks_asked (g : Generator) (call : InsertCall) :
    (asked g call).Asks (DumpHelper.batch.liftExcept (call.answer g)) [call] :=
  fun sink => ⟨[call], call.answer g, sink, ⟨rfl, fun _ => rfl⟩, List.prefix_refl _, fun _ _ => rfl⟩

theorem asks_pure (x : α) : (pure x : Asking α).Asks (pure x) [] := asks_written (pure x)

/-- **Runs in a row** ask for what each of them asks for, up to the first that fails. -/
theorem Asks.bind {b : Asking α} {a : Writing α} {g : α → Asking β} {f : α → Writing β}
    {planned planned' : List InsertCall} (hb : b.Asks a planned)
    (hg : ∀ x, (g x).Asks (f x) planned') : (b >>= g).Asks (a >>= f) (planned ++ planned') := by
  intro sink
  obtain ⟨calls, r, sink', hrecords, hprefix, hall⟩ := hb sink
  cases r with
  | error e =>
    exact ⟨calls, .error e, sink', hrecords.bind_error, hprefix.trans (List.prefix_append _ _),
      nofun⟩
  | ok x =>
    obtain ⟨calls', r, sink'', hrest, hprefix', hall'⟩ := hg x sink'
    obtain rfl := hall x rfl
    refine ⟨calls ++ calls', r, sink'', hrecords.bind hrest,
      (List.prefix_append_right_inj _).mpr hprefix', fun y hy => ?_⟩
    rw [hall' y hy]

theorem asks_forM {γ : Type} {g : γ → Asking Unit} {f : γ → Writing Unit}
    {planned : γ → List InsertCall} (h : ∀ c, (g c).Asks (f c) (planned c)) (cs : List γ) :
    (cs.forM g).Asks (cs.forM f) (cs.flatMap planned) := by
  induction cs with
  | nil => exact asks_pure ()
  | cons c cs ih => exact (h c).bind fun _ => ih

end Asking

namespace DumpHelper

open Asking

variable (h : DumpHelper) (g : Generator) (t : Table) (cs : List Column) (rows : List (List Cell))
  (drop : Bool) (size : Nat)

theorem asks_line (s : String) : (written (Writing.line s)).Asks (Writing.line s) [] :=
  asks_written _

theorem asks_statements (ss : List String) :
    (program.statements h (fun s => written (Writing.line s)) ss).Asks
      (program.statements h Writing.line ss) [] := by
  have hall := asks_forM (fun s => asks_line (s ++ h.terminator)) ss
  rwa [List.flatMap_eq_nil_iff.mpr fun _ _ => rfl] at hall

theorem asks_writeUnlessEmpty (s : String) :
    (program.writeUnlessEmpty (fun s => written (Writing.line s)) s).Asks
      (program.writeUnlessEmpty Writing.line s) [] := by
  unfold program.writeUnlessEmpty
  split
  · exact asks_pure ()
  · exact asks_line s

def calls (t : Table) (cs : List Column) (bs : List (List (List Cell))) : List InsertCall :=
  bs.map fun batch => ⟨t.tableName, cs, batch, .none⟩

theorem asks_batches (bs : List (List (List Cell))) :
    (bs.forM fun batch => asked g ⟨t.tableName, cs, batch, .none⟩ >>=
        program.statements h fun s => written (Writing.line s)).Asks
      (bs.forM fun rows => batch.liftExcept (g.insert t.tableName cs rows .none) >>=
        program.statements h Writing.line) (calls t cs bs) := by
  rw [calls, List.map_eq_flatMap]
  exact asks_forM (fun batch => (asks_asked g ⟨t.tableName, cs, batch, .none⟩).bind
    fun ss => h.asks_statements ss) bs

/-- **A dump asks for each batch in turn.** -/
theorem asks_dump : (h.asking g t cs rows drop size).Asks (h.dump g t cs rows drop size)
    (calls t cs (batches size rows)) := by
  have hrecords := (asks_line "").bind fun _ =>
    (asks_line ("-- Records of " ++ t.tableName)).bind fun _ =>
    (asks_writeUnlessEmpty (h.beforeInsert t.tableName)).bind fun _ =>
    (h.asks_batches g t cs (batches size rows)).bind fun _ =>
    asks_writeUnlessEmpty (h.afterInsert t.tableName)
  -- both are the same program, so each of its steps is related to itself
  rw [← program_eq_dump]
  refine (asks_line _).bind fun _ => (h.asks_statements _).bind fun _ => ?_
  split
  · rename_i hrows
    rw [List.isEmpty_iff.mp hrows, batches]
    exact asks_pure ()
  · rw [List.append_nil] at hrecords
    exact hrecords

end DumpHelper

/-! ### The tuples of an insert -/

namespace ClickHouse

open Text.Quotes

/-- What stands in front of the tuples of an insert. -/
def insertFront (table : String) (cs : List Column) : List Char :=
  ("INSERT INTO " ++ quoting.quoteQualified table ++ " (" ++
    ", ".intercalate (cs.map fun c => quoting.quote c.columnName) ++ ") VALUES ").toList

/-- The tuples of an insert into these columns of a table, each as its cells. -/
def readTuples? (table : String) (cs : List Column) (statement : String) :
    Option (List (List (List Char))) :=
  (Text.stripPrefix? (insertFront table cs) statement.toList).bind fun s =>
    (quotes.items s).mapM readRow?

theorem toList_insertRows_front (table : String) (cs : List Column) (ts : List NativeType)
    (rows : List (List Cell)) :
    (insertRows table cs ts rows).toList =
      insertFront table cs ++
        [',', ' '].intercalate (rows.map fun row => (rowText ts row).toList) := by
  delta insertRows insertFront
  simp [Function.comp_def]

theorem readTuples?_insertRows {table : String} {cs : List Column} {ts : List NativeType}
    {rows : List (List Cell)} (hrows : rows ≠ []) (hne : ∀ row ∈ rows, rowLiterals ts row ≠ []) :
    readTuples? table cs (insertRows table cs ts rows) =
      some (rows.map fun row => (rowLiterals ts row).map String.toList) := by
  have hitems := items_intercalate (k := quotes) (by decide) (mt List.map_eq_nil_iff.mp hrows)
    (List.forall_mem_map.mpr fun row _ => pass?_rowText ts row)
  rw [readTuples?, Text.stripPrefix?_eq_some_iff.mpr (toList_insertRows_front table cs ts rows),
    Option.bind_some, hitems]
  exact mapM_readRow? hne

/-- The statements of batches, one for each, and what their success says of all rows. -/
theorem inserts_eq_ok {table : String} {cs : List Column} {bs : List (List (List Cell))}
    {sss : List (List String)} (hbs : ∀ batch ∈ bs, batch ≠ [])
    (hsss : DumpHelper.inserts generator table cs bs = .ok sss) :
    bs = [] ∨ cs ≠ [] ∧ (∀ row ∈ bs.flatten, row.length = cs.length) ∧
      ∃ ts, cs.mapM vocabulary.resolve = .ok ts ∧
        sss.flatten = bs.map (insertRows table cs ts) := by
  induction mapM_eq_ok_iff.mp hsss with
  | nil => exact Or.inl rfl
  | @cons batch ss bs sss hss hrest ih =>
    obtain ⟨hbatch, hbs⟩ := List.forall_mem_cons.mp hbs
    have hss : insert table cs batch .none = .ok ss := hss
    obtain ⟨hcs, hwidth, ts, hts, rfl⟩ := (insert_eq_ok_iff_of_ne_nil hbatch).mp hss
    refine Or.inr ⟨hcs, ?_⟩
    rcases ih hbs (mapM_eq_ok_iff.mpr hrest) with rfl | ⟨-, hwidths, ts', hts', hflat⟩
    · cases hrest
      refine ⟨?_, ts, hts, rfl⟩
      rwa [List.flatten_singleton]
    · obtain rfl := Except.ok.inj (hts.symm.trans hts')
      refine ⟨?_, ts, hts, ?_⟩
      · rw [List.flatten_cons, List.forall_mem_append]
        exact ⟨hwidth, hwidths⟩
      · rw [List.flatten_cons, hflat]
        rfl

/-- **The batches have the tuples of all rows.** -/
theorem readTuples?_batches {table : String} {cs : List Column} {rows : List (List Cell)}
    {size : Nat} {sss : List (List String)} (hrows : rows ≠ [])
    (hsss : DumpHelper.inserts generator table cs (batches size rows) = .ok sss) :
    ∃ whole tuples parts, insert table cs rows .none = .ok [whole] ∧
      readTuples? table cs whole = some tuples ∧ List.Forall₂ (CellsOf cs) rows tuples ∧
      sss.flatten.mapM (readTuples? table cs) = some parts ∧ parts.flatten = tuples := by
  have hbatches : ∀ batch ∈ batches size rows, batch ≠ [] := fun batch h => (mem_batches h).1
  have hnil : batches size rows ≠ [] := by
    intro hnil
    rw [← flatten_batches size rows, hnil] at hrows
    exact hrows rfl
  obtain ⟨hcs, hwidth, ts, hts, hflat⟩ := (inserts_eq_ok hbatches hsss).resolve_left hnil
  rw [flatten_batches] at hwidth
  have hcells : ∀ row ∈ rows, CellsOf cs row ((rowLiterals ts row).map String.toList) :=
    fun row hrow => cellsOf_rowLiterals hts (hwidth row hrow)
  have hne : ∀ row ∈ rows, rowLiterals ts row ≠ [] :=
    fun row hrow hnone => (hcells row hrow).ne_nil hcs (by rw [hnone, List.map_nil])
  have hparts : ((batches size rows).map (insertRows table cs ts)).mapM (readTuples? table cs) =
      some ((batches size rows).map (List.map fun row => (rowLiterals ts row).map String.toList)) :=
    mapM_map_eq_some fun batch hbatch => readTuples?_insertRows (hbatches batch hbatch)
      fun row hrow => hne row (mem_of_mem_batches hbatch hrow)
  refine ⟨insertRows table cs ts rows, _, _,
    (insert_eq_ok_iff_of_ne_nil hrows).mpr ⟨hcs, hwidth, ts, hts, rfl⟩,
    readTuples?_insertRows hrows hne, ?_, hflat ▸ hparts, ?_⟩
  · rw [List.forall₂_map_right_iff]
    exact List.forall₂_same.mpr hcells
  · rw [← List.map_flatten, flatten_batches]

end ClickHouse

/-! ### A dump that succeeds -/

namespace DumpHelper

open ClickHouse (CellsOf readTuples?)

theorem mapM_answer_calls {g : Generator} {t : Table} {cs : List Column}
    {bs : List (List (List Cell))} {sss : List (List String)} :
    (calls t cs bs).mapM (·.answer g) = .ok sss ↔ inserts g t.tableName cs bs = .ok sss := by
  rw [inserts, mapM_eq_ok_iff, mapM_eq_ok_iff, calls, List.forall₂_map_left_iff]
  rfl

theorem flatMap_rows_calls (t : Table) (cs : List Column) (size : Nat) (rows : List (List Cell)) :
    (calls t cs (batches size rows)).flatMap (·.rows) = rows := by
  rw [calls, List.flatMap_map]
  exact List.flatMap_id'.trans (flatten_batches size rows)

/-- **Batches neither lose a row nor repeat one.** A dump of rows that succeeds has asked for
all of them in order, with as few calls as hold at most `max 1 size` rows each and with no
strategy for duplicates, and has written what it was answered. ClickHouse's answers have,
one after the other, the tuples of one insert of all rows, which are the literals of the
rows. -/
theorem dump_batches {h : DumpHelper} {g : Generator} {t : Table} {cs : List Column}
    {rows : List (List Cell)} {drop : Bool} {size : Nat} {sink sink' : Sink} (hrows : rows ≠ [])
    (hdump : h.dump g t cs rows drop size sink = (.ok (), sink')) :
    ∃ calls : List InsertCall,
      h.asking g t cs rows drop size ([], sink) = (.ok (), (calls, sink')) ∧
      calls.flatMap (·.rows) = rows ∧ calls.length = rows.length ⌈/⌉ max 1 size ∧
      (∀ call ∈ calls, call.table = t.tableName ∧ call.columns = cs ∧ call.strategy = .none ∧
        call.rows ≠ [] ∧ call.rows.length ≤ max 1 size) ∧
      ∃ sss, calls.mapM (·.answer g) = .ok sss ∧
        sink'.written = sink.written ++ Text.Utf8.encode
          (h.structureText t.tableName (g.tableDdl t cs drop) ++
            h.recordsText t.tableName sss.flatten) ∧
        (g = ClickHouse.generator → ∃ whole tuples parts,
          g.insert t.tableName cs rows .none = .ok [whole] ∧
          readTuples? t.tableName cs whole = some tuples ∧
          List.Forall₂ (CellsOf cs) rows tuples ∧
          sss.flatten.mapM (readTuples? t.tableName cs) = some parts ∧ parts.flatten = tuples) := by
  obtain ⟨asked, r, last, hrecords, -, hall⟩ := h.asks_dump g t cs rows drop size sink
  cases hrecords.ends.symm.trans hdump
  obtain rfl := hall () rfl
  refine ⟨calls t cs (batches size rows), hrecords.tells [], flatMap_rows_calls t cs size rows,
    ?_, ?_, ?_⟩
  · rw [calls, List.length_map, length_batches]
  · rw [calls, List.forall_mem_map]
    exact fun batch hbatch => ⟨rfl, rfl, rfl, mem_batches hbatch⟩
  cases hsss : inserts g t.tableName cs (batches size rows) with
  | error e =>
    obtain ⟨out, hout⟩ := h.yields_dump_error hsss drop
    cases (hout.of_ok hdump).1
  | ok sss =>
    have hwritten := ((h.yields_dump hsss drop).of_ok hdump).2
    rw [List.isEmpty_eq_false_iff.mpr hrows, if_neg Bool.false_ne_true] at hwritten
    refine ⟨sss, mapM_answer_calls.mpr hsss, hwritten, ?_⟩
    rintro rfl
    exact ClickHouse.readTuples?_batches hrows hsss

/-- Three rows, two at a time. -/
theorem dump_batches_of_three :
    ∃ sink', ({} : DumpHelper).dump ClickHouse.generator { tableName := "t" } [numbers]
        [[.int32 1], [.int32 2], [.int32 3]] false 2 {} = (.ok (), sink') ∧
      ∃ calls : List InsertCall,
        calls.flatMap (·.rows) = [[.int32 1], [.int32 2], [.int32 3]] ∧ calls.length = 2 ∧
        ∃ sss, calls.mapM (·.answer ClickHouse.generator) = .ok sss ∧
          ∃ whole tuples parts,
            ClickHouse.generator.insert "t" [numbers] [[.int32 1], [.int32 2], [.int32 3]] .none =
              .ok [whole] ∧
            readTuples? "t" [numbers] whole = some tuples ∧
            sss.flatten.mapM (readTuples? "t" [numbers]) = some parts ∧ parts.flatten = tuples := by
  have hsss : inserts ClickHouse.generator "t" [numbers]
      (batches 2 [[.int32 1], [.int32 2], [.int32 3]]) =
      .ok [["INSERT INTO \x60t\x60 (\x60a\x60) VALUES (1), (2)"],
        ["INSERT INTO \x60t\x60 (\x60a\x60) VALUES (3)"]] := by
    decide +kernel
  have hdump := (yields_dump {} (t := { tableName := "t" }) hsss false []).1
  obtain ⟨calls, -, hrows, hlen, -, sss, hanswer, -, htuples⟩ :=
    dump_batches (List.cons_ne_nil _ _) hdump
  obtain ⟨whole, tuples, parts, hwhole, hread, -, hparts, hflat⟩ := htuples rfl
  exact ⟨_, hdump, calls, hrows, hlen, sss, hanswer, whole, tuples, parts, hwhole, hread, hparts,
    hflat⟩

end DumpHelper

end SqlDialect
