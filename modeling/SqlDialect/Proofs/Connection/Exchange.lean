import SqlDialect.Proofs.Recording
/-!
# What passes over a connection

An `Exchange` is a call of a connection together with how it ended, and `c.traced`
is the connection `c` with a record of all of them. `Talks` says all about an action
on both: what it does on `c`, and that on `c.traced` it does the same and has these
exchanges.

`executeBatch_talks` is a list of statements sent one after the other: each with no
parameters, up to and with the first that fails (`Batch.halts`). Two lists in a row are
one list (`executeBatch_append`).
-/

namespace SqlDialect

/-- A call of a connection and how it ended. -/
inductive Exchange
  | query (sql : String) (params : List Cell) (reply : Except DbError ResultSet)
  | execute (sql : String) (params : List Cell) (reply : Except DbError Outcome)
  | close (reply : Except DbError Unit)

namespace Connection

variable {σ : Type}

/-- An action, and a record of how it ended. -/
def noted {α : Type} (exchange : Except DbError α → Exchange) (a : Action σ α) :
    Action (List Exchange × σ) α :=
  fun (log, s) =>
    let (r, s') := a.run s
    (r, (log ++ [exchange r], s'))

/-- The same connection, which records every exchange. -/
def traced (c : Connection σ) : Connection (List Exchange × σ) where
  driverName := c.driverName
  database := c.database
  execute sql params := noted (.execute sql params) (c.execute sql params)
  query sql params := noted (.query sql params) (c.query sql params)
  close := noted .close c.close
  isClosed s := c.isClosed s.2

end Connection

namespace Action

variable {σ α : Type}

/-- How an action ends from a state, and that the action `b` ends like it and has
these exchanges recorded. -/
abbrev Talks (a : Action σ α) (b : Action (List Exchange × σ) α) (s : σ) (es : List Exchange)
    (r : Except DbError α) (s' : σ) : Prop := Records Prod.mk a b s es r s'

theorem talks_noted (exchange : Except DbError α → Exchange) {a : Action σ α} {s s' : σ}
    {r : Except DbError α} (h : a s = (r, s')) :
    Talks a (Connection.noted exchange a) s [exchange r] r s' := by
  refine ⟨h, fun log => ?_⟩
  show ((a s).1, (log ++ [exchange (a s).1], (a s).2)) = _
  rw [h]

end Action

namespace Connection

open SqlDialect.Action

variable {σ : Type} {c : Connection σ} {sql : String} {params : List Cell} {s s' : σ}

theorem talks_query {reply : Except DbError ResultSet} (h : c.query sql params s = (reply, s')) :
    Talks (c.query sql params) (c.traced.query sql params) s [.query sql params reply] reply s' :=
  talks_noted _ h

theorem talks_execute {reply : Except DbError Outcome} (h : c.execute sql params s = (reply, s')) :
    Talks (c.execute sql params) (c.traced.execute sql params) s [.execute sql params reply] reply
      s' := talks_noted _ h

/-! ### Statements in a row -/

/-- A statement that is sent with no parameters and succeeds. -/
def Succeeds (sql : String) (x : Exchange) : Prop := ∃ outcome, x = .execute sql [] (.ok outcome)

/-- The exchanges of statements in a row and how these end: each statement is sent if
all before it succeed. -/
inductive Batch : List String → List Exchange → Except DbError UInt64 → Prop
  | done : Batch [] [] (.ok 0)
  | failure (sql : String) (rest : List String) (e : DbError) :
      Batch (sql :: rest) [.execute sql [] (.error e)] (.error e)
  | success {rest : List String} {es : List Exchange} {r : Except DbError UInt64} (sql : String)
      (outcome : Outcome) (h : Batch rest es r) :
      Batch (sql :: rest) (.execute sql [] (.ok outcome) :: es)
        (r.map (outcome.affectedRows + ·))

/-- **Statements in a row**, on any connection. -/
theorem executeBatch_talks (c : Connection σ) (statements : List String) (s : σ) :
    ∃ es r s', Talks (c.executeBatch statements) (c.traced.executeBatch statements) s es r s' ∧
      Batch statements es r := by
  induction statements generalizing s with
  | nil => exact ⟨[], .ok 0, s, records_ofExcept (.ok 0) s, .done⟩
  | cons sql rest ih =>
    rcases hsql : c.execute sql [] s with ⟨reply, s₁⟩
    cases reply with
    | error e => exact ⟨_, _, _, (talks_execute hsql).bind_error, .failure sql rest e⟩
    | ok outcome =>
      obtain ⟨es, r, s₂, htalks, hbatch⟩ := ih s₁
      refine ⟨_, _, s₂, (talks_execute hsql).bind ?_, .success sql outcome hbatch⟩
      cases r with
      | error e => exact htalks.bind_error
      | ok affected =>
        have hsum := htalks.bind (f := fun n => pure (outcome.affectedRows + n))
          (g := fun n => pure (outcome.affectedRows + n))
          (records_ofExcept (.ok (outcome.affectedRows + affected)) s₂)
        rw [List.append_nil] at hsum
        exact hsum

/-- All statements succeed, or those in front of one do and this one fails; nothing
else is sent. -/
def HaltsAtFailure (statements : List String) (es : List Exchange) (r : Except DbError UInt64) :
    Prop :=
  (∃ n, r = .ok n ∧ List.Forall₂ Succeeds statements es) ∨
    ∃ e before sql after succeeded, r = .error e ∧ statements = before ++ sql :: after ∧
      es = succeeded ++ [.execute sql [] (.error e)] ∧ List.Forall₂ Succeeds before succeeded

/-- **A batch halts at its first failure.** -/
theorem Batch.halts {statements : List String} {es : List Exchange} {r : Except DbError UInt64}
    (h : Batch statements es r) : HaltsAtFailure statements es r := by
  induction h with
  | done => exact .inl ⟨0, rfl, .nil⟩
  | failure sql rest e => exact .inr ⟨e, [], sql, rest, [], rfl, rfl, rfl, .nil⟩
  | success sql outcome _ ih =>
    rcases ih with ⟨n, rfl, hall⟩ | ⟨e, before, failing, after, succeeded, rfl, rfl, rfl, hall⟩
    · exact .inl ⟨_, rfl, .cons ⟨outcome, rfl⟩ hall⟩
    · exact .inr ⟨e, sql :: before, failing, after, .execute sql [] (.ok outcome) :: succeeded,
        rfl, rfl, rfl, .cons ⟨outcome, rfl⟩ hall⟩

theorem Batch.mem_of_sent {statements : List String} {es : List Exchange}
    {r : Except DbError UInt64} (h : Batch statements es r) {sql : String} {params : List Cell}
    {reply : Except DbError Outcome} (hsent : .execute sql params reply ∈ es) :
    sql ∈ statements := by
  induction h with
  | done => cases hsent
  | failure sql' rest e =>
    rw [(Exchange.execute.inj (List.mem_singleton.mp hsent)).1]
    exact List.mem_cons_self ..
  | success sql' outcome _ ih =>
    rcases List.mem_cons.mp hsent with hfirst | hrest
    · rw [(Exchange.execute.inj hfirst).1]
      exact List.mem_cons_self ..
    · exact List.mem_cons_of_mem _ (ih hrest)

/-- Of two statements the second waits for the first. -/
theorem Batch.waits {first second : String} (hne : first ≠ second) {es : List Exchange}
    {r : Except DbError UInt64} (h : Batch [first, second] es r) {reply : Except DbError Outcome}
    (hsent : .execute second [] reply ∈ es) :
    ∃ outcome, es = [.execute first [] (.ok outcome), .execute second [] reply] := by
  cases h with
  | failure sql rest e =>
    obtain ⟨rfl, -⟩ := Exchange.execute.inj (List.mem_singleton.mp hsent)
    exact absurd rfl hne
  | success sql outcome h =>
    refine ⟨outcome, ?_⟩
    rcases List.mem_cons.mp hsent with hfirst | hsecond
    · exact absurd (Exchange.execute.inj hfirst).1.symm hne
    · cases h with
      | failure sql rest e => rw [List.mem_singleton.mp hsecond]
      | success sql outcome' h =>
        cases h
        rw [List.mem_singleton.mp hsecond]

/-- **Two batches in a row** are one batch, on every connection. -/
theorem executeBatch_append (c : Connection σ) (xs ys : List String) :
    c.executeBatch (xs ++ ys) = (do
      let affected ← c.executeBatch xs
      let more ← c.executeBatch ys
      return affected + more) := by
  induction xs with
  | nil =>
    have hzero : (fun more : UInt64 => 0 + more) = id := funext UInt64.zero_add
    simp only [List.nil_append, executeBatch, pure_bind, bind_pure_comp, hzero, id_map]
  | cons sql xs ih =>
    simp only [List.cons_append, executeBatch, ih, bind_assoc, pure_bind, UInt64.add_assoc]

end Connection

end SqlDialect
