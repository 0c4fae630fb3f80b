import SqlDialect.Proofs.Dump.Writing
/-!
# A dump on a sink that runs full

A sink with a limit takes the bytes that a sink without one takes, up to its limit, and what
it cannot take ends the dump. `dump_truncates` says so for every dump and every limit: the
limit may fall into any line, and the dump may as well end on its own before it is reached.

The bytes and the outcome without a limit are those that the dump `Yields`. That a dump
yields anything at all holds of its lines, its batches and its two ends one after the other
(`exists_yields_dump`).
-/

namespace SqlDialect

namespace DumpHelper

variable (h : DumpHelper) (g : Generator) (t : Table) (cs : List Column) (rows : List (List Cell))
  (drop : Bool) (size : Nat)

/-- A dump ends as the statements of its batches do. -/
theorem exists_yields_dump : ∃ out, (h.dump g t cs rows drop size).Yields out
    ((inserts g t.tableName cs (batches size rows)).map fun _ => ()) := by
  cases hsss : inserts g t.tableName cs (batches size rows) with
  | ok sss => exact ⟨_, h.yields_dump hsss drop⟩
  | error e => exact h.yields_dump_error hsss drop

/-- **A sink that runs full only cuts a dump off.** It has taken the first `k` bytes of the
dump, or all of them if these are fewer. If some byte found no room, this is the error;
otherwise the dump ends as it does without a limit, be it with the first error of a batch. -/
theorem dump_truncates (k : Nat) :
    ∃ out r, h.dump g t cs rows drop size {} = (r, { written := out }) ∧
      (r = (inserts g t.tableName cs (batches size rows)).map fun _ => ()) ∧
      ∃ cut r', h.dump g t cs rows drop size { room := some k } =
          (r', { written := cut, room := some (k - out.length) }) ∧
        cut = out.take k ∧ cut.length = min k out.length ∧
        (r' = if k < out.length then .error .writerFull else r) ∧
        (r' = .error .writerFull ↔ k < out.length ∨ r = .error .writerFull) := by
  obtain ⟨out, hout⟩ := h.exists_yields_dump g t cs rows drop size
  obtain ⟨hfull, hcut⟩ := hout []
  refine ⟨out, _, hfull, rfl, ?_⟩
  by_cases hk : k < out.length
  · have hroom : k - out.length = 0 := by omega
    refine ⟨out.take k, .error .writerFull, ?_, rfl, List.length_take, (if_pos hk).symm, ?_⟩
    · rw [hroom]
      exact (hcut k).trans (if_neg (Nat.not_le.mpr hk))
    · exact iff_of_true rfl (Or.inl hk)
  · have hle : out.length ≤ k := Nat.not_lt.mp hk
    refine ⟨out, _, (hcut k).trans (if_pos hle), (List.take_of_length_le hle).symm,
      (Nat.min_eq_right hle).symm, (if_neg hk).symm, ?_⟩
    rw [or_iff_right hk]

end DumpHelper

end SqlDialect
