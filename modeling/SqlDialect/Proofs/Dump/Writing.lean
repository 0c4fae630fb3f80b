import SqlDialect.Dump
import SqlDialect.Proofs.Text.Utf8
import SqlDialect.Proofs.Traversal
/-!
# What a dump writes

`a.Yields out r` says all about a writing `a`: it writes the bytes `out` and has the
outcome `r`, and on a sink with too little room it writes as many of them as there is
room for and fails. Writings in a row yield their bytes in a row (`Yields.bind`), up to
the first that fails (`Yields.bind_error`).

`yields_dump` is the dump of a table: headings, the statements of its definition, and
the statements of its batches, unless the statements of a batch cannot be made.
-/

namespace SqlDialect

namespace Writing

variable {α β : Type}

/-- What a writing does to every sink: these bytes, as far as there is room, and this
outcome, if there is room for all. -/
def Yields (a : Writing α) (out : List UInt8) (r : Except DbError α) : Prop :=
  ∀ written : List UInt8,
    a ⟨written, none⟩ = (r, ⟨written ++ out, none⟩) ∧
    ∀ n, a ⟨written, some n⟩ =
      if out.length ≤ n then (r, ⟨written ++ out, some (n - out.length)⟩)
      else (.error .writerFull, ⟨written ++ out.take n, some 0⟩)

theorem yields_bytes (data : List UInt8) : Yields (bytes data) data (.ok ()) :=
  fun _ => ⟨rfl, fun _ => rfl⟩

theorem yields_nothing (r : Except DbError α) : Yields (fun sink => (r, sink)) [] r := by
  intro written
  rw [List.append_nil]
  exact ⟨rfl, fun n => (if_pos (Nat.zero_le n)).symm⟩

theorem yields_pure (x : α) : Yields (pure x : Writing α) [] (.ok x) := yields_nothing (.ok x)

/-- **Writings in a row** yield their bytes in a row. -/
theorem Yields.bind {a : Writing α} {f : α → Writing β} {out out' : List UInt8} {x : α}
    {r : Except DbError β} (ha : a.Yields out (.ok x)) (hf : (f x).Yields out' r) :
    (a >>= f).Yields (out ++ out') r := by
  intro written
  refine ⟨?_, fun n => ?_⟩
  · rw [step_bind_apply, (ha written).1, ← List.append_assoc]
    exact (hf (written ++ out)).1
  · rw [step_bind_apply, (ha written).2 n, List.length_append]
    by_cases hlen : out.length ≤ n
    · rw [if_pos hlen]
      refine ((hf (written ++ out)).2 (n - out.length)).trans ?_
      have htake : (out ++ out').take n = out ++ out'.take (n - out.length) := by
        rw [List.take_append, List.take_of_length_le hlen]
      rw [htake, List.append_assoc, List.append_assoc, Nat.sub_sub]
      have hroom : out'.length ≤ n - out.length ↔ out.length + out'.length ≤ n := by omega
      simp only [hroom]
    · rw [if_neg hlen, if_neg (by omega), List.take_append_of_le_length (by omega)]

theorem Yields.andThen {a : Writing Unit} {b : Writing β} {out out' : List UInt8}
    {r : Except DbError β} (ha : a.Yields out (.ok ())) (hb : b.Yields out' r) :
    (a >>= fun _ => b).Yields (out ++ out') r := ha.bind (f := fun _ => b) hb

/-- A writing that fails is the last one. -/
theorem Yields.bind_error {a : Writing α} {f : α → Writing β} {out : List UInt8} {e : DbError}
    (ha : a.Yields out (.error e)) : (a >>= f).Yields out (.error e) := by
  intro written
  refine ⟨?_, fun n => ?_⟩
  · rw [step_bind_apply, (ha written).1]
  · rw [step_bind_apply, (ha written).2 n]
    by_cases hlen : out.length ≤ n
    · rw [if_pos hlen, if_pos hlen]
    · rw [if_neg hlen, if_neg hlen]

/-- What a writing that succeeds has written. -/
theorem Yields.of_ok {a : Writing α} {out : List UInt8} {r : Except DbError α}
    (ha : a.Yields out r) {sink sink' : Sink} {x : α} (h : a sink = (.ok x, sink')) :
    r = .ok x ∧ sink'.written = sink.written ++ out := by
  obtain ⟨written, room⟩ := sink
  cases room with
  | none =>
    rw [(ha written).1] at h
    cases h
    exact ⟨rfl, rfl⟩
  | some n =>
    rw [(ha written).2 n] at h
    split at h
    · cases h
      exact ⟨rfl, rfl⟩
    · cases h

theorem yields_forM {f : α → Writing Unit} {out : α → List UInt8} {as : List α}
    (h : ∀ a ∈ as, (f a).Yields (out a) (.ok ())) :
    (as.forM f).Yields (as.flatMap out) (.ok ()) := by
  induction as with
  | nil => exact yields_pure ()
  | cons a as ih =>
    rw [List.flatMap_cons]
    exact (h a (List.mem_cons_self ..)).bind (ih fun b hb => h b (List.mem_cons_of_mem _ hb))

end Writing

open Text.Utf8 (encode_append)
open Writing

/-! ### The parts of a dump -/

def lineText (s : String) : List Char := s.toList ++ ['\n']

/-- A line that is left out if it is empty. -/
def optionalLine (s : String) : List Char := if s = "" then [] else lineText s

def scriptLines (terminator : String) (ss : List String) : List Char :=
  ss.flatMap fun s => lineText (s ++ terminator)

theorem yields_line (s : String) : (line s).Yields (Text.Utf8.encode (lineText s)) (.ok ()) :=
  yields_bytes _

theorem yields_lineUnlessEmpty (s : String) :
    (lineUnlessEmpty s).Yields (Text.Utf8.encode (optionalLine s)) (.ok ()) := by
  unfold lineUnlessEmpty optionalLine
  split
  · exact yields_pure ()
  · exact yields_line s

namespace DumpHelper

variable (h : DumpHelper)

theorem yields_statements (ss : List String) :
    (h.statements ss).Yields (Text.Utf8.encode (scriptLines h.terminator ss)) (.ok ()) := by
  rw [Text.Utf8.encode, scriptLines, List.flatMap_assoc]
  exact yields_forM fun s _ => yields_line (s ++ h.terminator)

theorem yields_batch {g : Generator} {table : String} {cs : List Column} {rows : List (List Cell)}
    {ss : List String} (hss : g.insert table cs rows .none = .ok ss) :
    (h.batch g table cs rows).Yields (Text.Utf8.encode (scriptLines h.terminator ss)) (.ok ()) := by
  have hlift : Yields (batch.liftExcept (g.insert table cs rows .none)) [] (.ok ss) := by
    rw [hss]
    exact yields_nothing _
  exact hlift.bind (h.yields_statements ss)

theorem yields_batch_error {g : Generator} {table : String} {cs : List Column}
    {rows : List (List Cell)} {e : DbError} (he : g.insert table cs rows .none = .error e) :
    (h.batch g table cs rows).Yields [] (.error e) := by
  have hlift : Yields (batch.liftExcept (g.insert table cs rows .none)) [] (.error e) := by
    rw [he]
    exact yields_nothing _
  exact hlift.bind_error

/-- The statements that insert each batch of rows. -/
def inserts (g : Generator) (table : String) (cs : List Column) :
    List (List (List Cell)) → Except DbError (List (List String)) :=
  List.mapM fun rows => g.insert table cs rows .none

theorem yields_batches {g : Generator} {table : String} {cs : List Column}
    {bs : List (List (List Cell))} {sss : List (List String)}
    (hsss : inserts g table cs bs = .ok sss) :
    (bs.forM (h.batch g table cs)).Yields
      (Text.Utf8.encode (scriptLines h.terminator sss.flatten)) (.ok ()) := by
  induction mapM_eq_ok_iff.mp hsss with
  | nil => exact yields_pure ()
  | @cons rows ss bs sss hss hrest ih =>
    have hall := (h.yields_batch hss).andThen (ih (mapM_eq_ok_iff.mpr hrest))
    rw [← encode_append, scriptLines, scriptLines, ← List.flatMap_append,
      ← List.flatten_cons] at hall
    exact hall

/-- Batches are written up to the first whose statements cannot be made. -/
theorem yields_batches_error {g : Generator} {table : String} {cs : List Column}
    {bs : List (List (List Cell))} {e : DbError} (he : inserts g table cs bs = .error e) :
    ∃ out, (bs.forM (h.batch g table cs)).Yields out (.error e) := by
  induction bs with
  | nil => cases he
  | cons rows bs ih =>
    rcases mapM_cons_eq_error_iff.mp he with hrows | ⟨ss, hss, hrest⟩
    · exact ⟨[], (h.yields_batch_error hrows).bind_error⟩
    · obtain ⟨out, hout⟩ := ih hrest
      exact ⟨_, (h.yields_batch hss).andThen hout⟩

/-! ### A whole dump -/

def structureText (table : String) (ddl : List String) : List Char :=
  lineText ("-- Table structure for " ++ table) ++ scriptLines h.terminator ddl

def recordsText (table : String) (ss : List String) : List Char :=
  lineText "" ++ (lineText ("-- Records of " ++ table) ++ (optionalLine (h.beforeInsert table) ++
    (scriptLines h.terminator ss ++ optionalLine (h.afterInsert table))))

/-- **What a dump writes**: the definition of the table and, if there are rows, the
statements of all batches. -/
theorem yields_dump {g : Generator} {t : Table} {cs : List Column} {rows : List (List Cell)}
    {size : Nat} {sss : List (List String)}
    (hsss : inserts g t.tableName cs (batches size rows) = .ok sss) (drop : Bool) :
    (h.dump g t cs rows drop size).Yields
      (Text.Utf8.encode (h.structureText t.tableName (g.tableDdl t cs drop) ++
        if rows.isEmpty then [] else h.recordsText t.tableName sss.flatten)) (.ok ()) := by
  have hrecords := (yields_line "").andThen <|
    (yields_line ("-- Records of " ++ t.tableName)).andThen <|
    (yields_lineUnlessEmpty (h.beforeInsert t.tableName)).andThen <|
    (h.yields_batches hsss).andThen (yields_lineUnlessEmpty (h.afterInsert t.tableName))
  simp only [← encode_append] at hrecords
  rw [structureText, List.append_assoc, encode_append, encode_append]
  refine (yields_line _).andThen ((h.yields_statements _).andThen ?_)
  split
  · exact yields_pure ()
  · exact hrecords

/-- A dump ends where the statements of a batch cannot be made. -/
theorem yields_dump_error {g : Generator} {t : Table} {cs : List Column} {rows : List (List Cell)}
    {size : Nat} {e : DbError} (he : inserts g t.tableName cs (batches size rows) = .error e)
    (drop : Bool) : ∃ out, (h.dump g t cs rows drop size).Yields out (.error e) := by
  obtain ⟨out, hout⟩ := h.yields_batches_error he
  have hrows : rows ≠ [] := by
    rintro rfl
    rw [batches] at he
    cases he
  have hrecords := (yields_line "").andThen <|
    (yields_line ("-- Records of " ++ t.tableName)).andThen <|
    (yields_lineUnlessEmpty (h.beforeInsert t.tableName)).andThen <|
    hout.bind_error (f := fun _ => lineUnlessEmpty (h.afterInsert t.tableName))
  rw [dump, List.isEmpty_eq_false_iff.mpr hrows, if_neg Bool.false_ne_true]
  exact ⟨_, (yields_line _).andThen ((h.yields_statements _).andThen hrecords)⟩

end DumpHelper

end SqlDialect
