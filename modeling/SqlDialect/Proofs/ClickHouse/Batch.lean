import SqlDialect.ClickHouse.Dialect
import SqlDialect.Connection.Scripted
import SqlDialect.Proofs.ClickHouse.Replace
import SqlDialect.Proofs.Connection.Exchange
/-!
# Statements that wait for each other

Two statements of the engine rely on the one in front of them: the insert that
replaces rows on the deletion of those it replaces, and the insert that fills a copy
on the definition of the copy. `batch_halts`: on every connection a batch ends with its
first failure, so neither is sent before the other has succeeded.
-/

namespace SqlDialect.ClickHouse

open Connection

variable {σ : Type}

def copyCreation (request : CopyRequest) : String :=
  "CREATE TABLE " ++ quoting.quoteQualified request.newTableName ++ " AS " ++
    quoting.quoteQualified request.tableName

def copyInsertion (request : CopyRequest) : String :=
  "INSERT INTO " ++ quoting.quoteQualified request.newTableName ++ " SELECT * FROM " ++
    quoting.quoteQualified request.tableName

theorem copyStatements_eq (request : CopyRequest) :
    copyStatements request =
      if request.copyData then [copyCreation request, copyInsertion request]
      else [copyCreation request] := rfl

/-- Two texts differ if they begin with different characters. -/
theorem append_ne_append {a b : String} {c d : Char} (ha : a.toList.head? = some c)
    (hb : b.toList.head? = some d) (hcd : c ≠ d) (s t : String) : a ++ s ≠ b ++ t := by
  intro h
  have hhead := congrArg (fun u => u.toList.head?) h
  simp only [String.toList_append, List.head?_append, ha, hb, Option.some_or] at hhead
  exact hcd (Option.some.inj hhead)

theorem copyCreation_ne_copyInsertion (request : CopyRequest) :
    copyCreation request ≠ copyInsertion request := by
  delta copyCreation copyInsertion
  simp only [String.append_assoc]
  exact append_ne_append rfl rfl (by decide) _ _

theorem deleteKeys_ne_insertRows (table : String) (key : Column) (keys : List String)
    (cs : List Column) (ts : List NativeType) (rows : List (List Cell)) :
    deleteKeys table key keys ≠ insertRows table cs ts rows := by
  delta deleteKeys insertRows
  simp only [String.append_assoc]
  exact append_ne_append rfl rfl (by decide) _ _

theorem makeRoom_cases (table : String) (cs : List Column) (ts : List NativeType)
    (rows : List (List Cell)) :
    makeRoom table cs ts rows = [] ∨
      ∃ key keys, makeRoom table cs ts rows = [deleteKeys table key keys] := by
  unfold makeRoom
  split
  · dsimp only
    split
    · exact .inl rfl
    · exact .inr ⟨_, _, rfl⟩
  · exact .inl rfl

/-- The pair of statements that replaces rows. -/
theorem insert_update_eq_pair {table : String} {cs : List Column} {rows : List (List Cell)}
    {delete insertion : String} (h : insert table cs rows .update = .ok [delete, insertion]) :
    ∃ key keys ts,
      delete = deleteKeys table key keys ∧ insertion = insertRows table cs ts rows := by
  rcases insert_eq_ok_iff.mp h with ⟨-, hnil⟩ | ⟨-, -, -, ts, -, hpair⟩
  · cases hnil
  · rw [preparation] at hpair
    rcases makeRoom_cases table cs ts rows with hnone | ⟨key, keys, hdelete⟩
    · rw [hnone] at hpair
      cases hpair
    · rw [hdelete] at hpair
      cases hpair
      exact ⟨key, keys, ts, rfl, rfl⟩

theorem copyTable_talks (c : Connection σ) (request : CopyRequest) (s : σ) :
    ∃ es r s', Action.Talks (dialect.copyTable c request) (dialect.copyTable c.traced request) s es
      r s' ∧ ∃ r', Batch (copyStatements request) es r' := by
  obtain ⟨es, r, s', htalks, hbatch⟩ := executeBatch_talks c (copyStatements request) s
  have hdone := htalks.bind_ofExcept fun _ => .ok ()
  exact ⟨_, _, s', (Action.records_ofExcept (.ok (copyStatements request)) s).bind hdone, _, hbatch⟩

/-- The insert that fills a copy waits for the definition of the copy. -/
theorem copyInsertion_waits {request : CopyRequest} {es : List Exchange}
    {r : Except DbError UInt64} (h : Batch (copyStatements request) es r)
    {reply : Except DbError Outcome} (hsent : .execute (copyInsertion request) [] reply ∈ es) :
    request.copyData = true ∧ ∃ outcome,
      es = [.execute (copyCreation request) [] (.ok outcome),
        .execute (copyInsertion request) [] reply] := by
  have hne := copyCreation_ne_copyInsertion request
  rw [copyStatements_eq] at h
  split at h
  · rename_i hdata
    exact ⟨hdata, h.waits hne hsent⟩
  · exact absurd (List.mem_singleton.mp (h.mem_of_sent hsent)).symm hne

/-- **What a batch sends.** On every connection and from every state, a batch ends with
its first failure, and two batches in a row are one. So the insert of a pair that
replaces rows is sent only after its deletion has succeeded, and the insert that fills a
copy only if rows are to be copied and after the definition of the copy has succeeded. -/
theorem batch_halts (c : Connection σ) (s : σ) :
    (∀ statements, ∃ es r s', c.executeBatch statements s = (r, s') ∧
      c.traced.executeBatch statements ([], s) = (r, (es, s')) ∧
      HaltsAtFailure statements es r) ∧
    (∀ xs ys, c.traced.executeBatch (xs ++ ys) = (do
      let affected ← c.traced.executeBatch xs
      let more ← c.traced.executeBatch ys
      return affected + more)) ∧
    (∀ table cs rows delete insertion,
      insert table cs rows .update = .ok [delete, insertion] →
      (∃ key keys ts, delete = deleteKeys table key keys ∧
        insertion = insertRows table cs ts rows) ∧
      ∀ es r s' reply, c.traced.executeBatch [delete, insertion] ([], s) = (r, (es, s')) →
        .execute insertion [] reply ∈ es →
        ∃ outcome, es = [.execute delete [] (.ok outcome), .execute insertion [] reply]) ∧
    ∀ request es r s' reply, dialect.copyTable c.traced request ([], s) = (r, (es, s')) →
      .execute (copyInsertion request) [] reply ∈ es →
      request.copyData = true ∧ ∃ outcome,
        es = [.execute (copyCreation request) [] (.ok outcome),
          .execute (copyInsertion request) [] reply] := by
  refine ⟨fun statements => ?_, executeBatch_append c.traced, ?_, ?_⟩
  · obtain ⟨es, r, s', htalks, hbatch⟩ := executeBatch_talks c statements s
    exact ⟨es, r, s', htalks.ends, htalks.tells [], hbatch.halts⟩
  · intro table cs rows delete insertion hinsert
    obtain ⟨key, keys, ts, rfl, rfl⟩ := insert_update_eq_pair hinsert
    refine ⟨⟨key, keys, ts, rfl, rfl⟩, fun es r s' reply hrun hsent => ?_⟩
    obtain ⟨es', r', s'', htalks, hbatch⟩ := executeBatch_talks c _ s
    cases (htalks.tells []).symm.trans hrun
    exact hbatch.waits (deleteKeys_ne_insertRows table key keys cs ts rows) hsent
  · intro request es r s' reply hrun hsent
    obtain ⟨es', r', s'', htalks, _, hbatch⟩ := copyTable_talks c request s
    cases (htalks.tells []).symm.trans hrun
    exact copyInsertion_waits hbatch hsent

/-- Rows are replaced on a connection on which every statement succeeds. -/
theorem batch_halts_of_pair :
    insert "t" pair [[.int32 1, .int32 2]] .update =
        .ok ["ALTER TABLE \x60t\x60 DELETE WHERE \x60a\x60 IN (1)",
          "INSERT INTO \x60t\x60 (\x60a\x60, \x60b\x60) VALUES (1, 2)"] ∧
      ∃ es r s' outcome, ({} : Script).connection.traced.executeBatch
          ["ALTER TABLE \x60t\x60 DELETE WHERE \x60a\x60 IN (1)",
            "INSERT INTO \x60t\x60 (\x60a\x60, \x60b\x60) VALUES (1, 2)"] ([], false) =
          (r, (es, s')) ∧
        es = [.execute "ALTER TABLE \x60t\x60 DELETE WHERE \x60a\x60 IN (1)" [] (.ok outcome),
          .execute "INSERT INTO \x60t\x60 (\x60a\x60, \x60b\x60) VALUES (1, 2)" [] (.ok ⟨0⟩)] := by
  obtain ⟨-, hwaits⟩ := (batch_halts ({} : Script).connection false).2.2.1 _ _ _ _ _ insert_pair
  obtain ⟨outcome, hes⟩ := hwaits _ _ _ (.ok ⟨0⟩) rfl
    (List.mem_cons_of_mem _ (List.mem_singleton_self _))
  exact ⟨insert_pair, _, _, _, outcome, rfl, hes⟩

end SqlDialect.ClickHouse
