import SqlDialect.Connection.Scripted
import SqlDialect.Proofs.Traversal
/-!
# The number of affected rows

If all statements of a batch succeed, so does the batch, and it tells the sum of the counts
that they report (`Reports.exists_sum`). A count is a word of 64 bits and so is the sum:
`executeBatch_eq_total_iff` says that it is the right one exactly if it fits. Words wrap, so
the order of the additions makes no difference. If they are made in the order of the
statements and none may wrap, one of them fails exactly if the whole sum does not fit
(`sum?_eq`).
-/

namespace SqlDialect.Connection

variable {σ : Type} {c : Connection σ} {s s' : σ} {statements : List String}
  {counts : List UInt64}

/-- These statements succeed one after the other, and report these counts of affected rows. -/
inductive Reports (c : Connection σ) : σ → List String → List UInt64 → σ → Prop
  | done (s : σ) : Reports c s [] [] s
  | sent {s s₁ s₂ : σ} {sql : String} {rest : List String} {n : UInt64} {ns : List UInt64} :
      c.execute sql [] s = (.ok ⟨n⟩, s₁) → Reports c s₁ rest ns s₂ →
      Reports c s (sql :: rest) (n :: ns) s₂

def total (counts : List UInt64) : Nat := counts.foldr (fun n sum => n.toNat + sum) 0

theorem total_cons (n : UInt64) (ns : List UInt64) : total (n :: ns) = n.toNat + total ns := rfl

theorem toNat_eq_total_iff {n : UInt64} (hn : n.toNat = total counts % UInt64.size) :
    n.toNat = total counts ↔ total counts < UInt64.size := by
  have hlt : n.toNat < UInt64.size := n.toNat_lt
  rw [hn] at hlt ⊢
  exact Nat.mod_eq_iff_lt (by decide)

/-- **A batch that succeeds** tells the sum of its counts, as a word. -/
theorem Reports.exists_sum (h : c.Reports s statements counts s') :
    ∃ n, c.executeBatch statements s = (.ok n, s') ∧ n.toNat = total counts % UInt64.size := by
  induction h with
  | done s => exact ⟨0, rfl, rfl⟩
  | @sent s s₁ s₂ sql rest n ns hsql _ ih =>
    obtain ⟨sum, hrest, hsum⟩ := ih
    refine ⟨n + sum, ?_, ?_⟩
    · rw [executeBatch, step_bind_apply, hsql]
      dsimp only
      rw [step_bind_apply, hrest]
      rfl
    · rw [UInt64.toNat_add, hsum, total_cons]
      exact Nat.add_mod_mod _ _ _

/-! ### Additions that do not wrap -/

/-- The sum of two counts if it is a count. -/
def add? (m n : UInt64) : Option UInt64 :=
  if m.toNat + n.toNat < UInt64.size then some (m + n) else none

/-- The counts added up in order, as long as each sum is a count. -/
def sum? (counts : List UInt64) : Option UInt64 := counts.foldlM add? 0

theorem add?_eq_some_iff {m n k : UInt64} : add? m n = some k ↔ k.toNat = m.toNat + n.toNat := by
  have hk : k.toNat < UInt64.size := k.toNat_lt
  unfold add?
  split
  · rename_i hfits
    rw [Option.some.injEq, ← UInt64.toNat_inj, UInt64.toNat_add, Nat.mod_eq_of_lt hfits, eq_comm]
  · exact iff_of_false nofun (by omega)

theorem foldlM_add?_eq_some_iff {m k : UInt64} :
    counts.foldlM add? m = some k ↔ k.toNat = m.toNat + total counts := by
  induction counts generalizing m with
  | nil =>
    show some m = some k ↔ k.toNat = m.toNat
    rw [Option.some.injEq, UInt64.toNat_inj, eq_comm]
  | cons n ns ih =>
    rw [List.foldlM_cons, Option.bind_eq_bind, Option.bind_eq_some_iff, total_cons]
    simp only [ih, add?_eq_some_iff]
    constructor
    · rintro ⟨sum, hsum, hk⟩
      omega
    · intro hk
      have hfits : m.toNat + n.toNat < UInt64.size := by
        have hlt : k.toNat < UInt64.size := k.toNat_lt
        omega
      have hsum : (m + n).toNat = m.toNat + n.toNat := by
        rw [UInt64.toNat_add]
        exact Nat.mod_eq_of_lt hfits
      exact ⟨m + n, hsum, by omega⟩

theorem sum?_eq {n : UInt64} (hn : n.toNat = total counts % UInt64.size) :
    sum? counts = if total counts < UInt64.size then some n else none := by
  ext k
  rw [sum?, foldlM_add?_eq_some_iff, Option.ite_none_right_eq_some, Option.some.injEq,
    ← UInt64.toNat_inj]
  have hk : k.toNat < UInt64.size := k.toNat_lt
  have hzero : (0 : UInt64).toNat = 0 := rfl
  constructor
  · intro h
    have hfits : total counts < UInt64.size := by omega
    rw [Nat.mod_eq_of_lt hfits] at hn
    exact ⟨hfits, by omega⟩
  · rintro ⟨hfits, h⟩
    rw [Nat.mod_eq_of_lt hfits] at hn
    omega

/-- **What a batch tells of its rows.** A batch whose statements all succeed never fails, and
what it tells is the sum of their counts exactly if that sum is less than 2⁶⁴; else it
is what is left of the sum above a multiple of 2⁶⁴. The same sums, each looked at, end
without a result exactly where this one is wrong. -/
theorem executeBatch_eq_total_iff (h : c.Reports s statements counts s') :
    ∃ n, c.executeBatch statements s = (.ok n, s') ∧ n.toNat = total counts % UInt64.size ∧
      (n.toNat = total counts ↔ total counts < UInt64.size) ∧
      sum? counts = if total counts < UInt64.size then some n else none := by
  obtain ⟨n, hrun, hn⟩ := h.exists_sum
  exact ⟨n, hrun, hn, toNat_eq_total_iff hn, sum?_eq hn⟩

/-- A connection on which every statement changes so many rows. -/
def changing (n : UInt64) : Connection Bool := ({ affected := [("", n)] } : Script).connection

/-- Two statements whose counts have a sum that just fits. -/
theorem executeBatch_eq_total_of_two :
    (changing 0x7FFFFFFFFFFFFFFF).Reports false ["DELETE a", "DELETE b"]
        [0x7FFFFFFFFFFFFFFF, 0x7FFFFFFFFFFFFFFF] false ∧
      ∃ n, (changing 0x7FFFFFFFFFFFFFFF).executeBatch ["DELETE a", "DELETE b"] false =
          (.ok n, false) ∧
        n.toNat = 0xFFFFFFFFFFFFFFFE := by
  have hreports : (changing 0x7FFFFFFFFFFFFFFF).Reports false ["DELETE a", "DELETE b"]
      [0x7FFFFFFFFFFFFFFF, 0x7FFFFFFFFFFFFFFF] false := .sent rfl (.sent rfl (.done _))
  obtain ⟨n, hrun, -, hexact, -⟩ := executeBatch_eq_total_iff hreports
  exact ⟨hreports, n, hrun, hexact.mpr (by decide)⟩

/-- **Rows that are lost.** Two statements that change 2⁶³ rows each change none together. -/
theorem rows_lost :
    (changing 0x8000000000000000).Reports false ["INSERT a", "INSERT b"]
        [0x8000000000000000, 0x8000000000000000] false ∧
      (changing 0x8000000000000000).executeBatch ["INSERT a", "INSERT b"] false =
        (.ok 0, false) ∧
      total [0x8000000000000000, 0x8000000000000000] = 0x10000000000000000 ∧
      (0 : UInt64).toNat ≠ total [0x8000000000000000, 0x8000000000000000] := by
  refine ⟨.sent rfl (.sent rfl (.done _)), rfl, rfl, by decide⟩

end SqlDialect.Connection
