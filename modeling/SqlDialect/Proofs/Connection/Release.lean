import SqlDialect.Connection.Provider
import SqlDialect.Connection.Scripted
import SqlDialect.Proofs.Connection.Exchange
/-!
# Whether a tested connection is closed

The test of a connection opens it, sends a query and closes it, and ends with the first of
these that fails. So there are three ways it can go (`Provider.Course`), and on every
provider and from every state it goes one of them (`exists_course`), which tells all that it
sends (`Course.talks`).

`testConnection_closes_iff`: the result is the first failure, if there is one. But a
connection that was opened is closed again exactly if the query succeeds. Where the query
fails the test ends with the connection open, and nobody else holds it.
-/

namespace SqlDialect

/-- Whether an exchange is a call that closes the connection. -/
def Exchange.isClose : Exchange → Bool
  | close _ => true
  | _ => false

namespace Provider

open SqlDialect.Action

variable {σ : Type}

/-- The same provider, whose connections record every exchange. -/
def traced (p : Provider σ) : Provider (List Exchange × σ) where
  engine := p.engine
  defaultPort := p.defaultPort
  connect config := fun (log, s) =>
    let (r, s') := p.connect config s
    (r.map Connection.traced, (log, s'))
  connectionString := p.connectionString

variable (p : Provider σ) (config : ConnectionConfig) (s : σ)

/-- How a test can go from a state: its exchanges, how it ends and in which state. -/
inductive Course : List Exchange → Except DbError Unit → σ → Prop
  | unreachable {e : DbError} {s₁ : σ} : p.connect config s = (.error e, s₁) →
      Course [] (.error e) s₁
  | refused {c : Connection σ} {e : DbError} {s₁ s₂ : σ} : p.connect config s = (.ok c, s₁) →
      c.query probeQuery [] s₁ = (.error e, s₂) →
      Course [.query probeQuery [] (.error e)] (.error e) s₂
  | answered {c : Connection σ} {result : ResultSet} {r : Except DbError Unit} {s₁ s₂ s₃ : σ} :
      p.connect config s = (.ok c, s₁) → c.query probeQuery [] s₁ = (.ok result, s₂) →
      c.close s₂ = (r, s₃) →
      Course [.query probeQuery [] (.ok result), .close r] r s₃

/-- The first step of a test that fails, and its error. -/
inductive FirstFailure (e : DbError) : Prop
  | opening {s₁ : σ} : p.connect config s = (.error e, s₁) → FirstFailure e
  | query {c : Connection σ} {s₁ s₂ : σ} : p.connect config s = (.ok c, s₁) →
      c.query probeQuery [] s₁ = (.error e, s₂) → FirstFailure e
  | closing {c : Connection σ} {result : ResultSet} {s₁ s₂ s₃ : σ} :
      p.connect config s = (.ok c, s₁) → c.query probeQuery [] s₁ = (.ok result, s₂) →
      c.close s₂ = (.error e, s₃) → FirstFailure e

/-- A connection is opened, and the query it is tested by fails. -/
def ProbeFails : Prop :=
  ∃ c s₁ e s₂, p.connect config s = (.ok c, s₁) ∧ c.query probeQuery [] s₁ = (.error e, s₂)

/-- How many connections a test opens. -/
def opened : Nat :=
  match (p.connect config s).1 with
  | .ok _ => 1
  | .error _ => 0

variable {p config s} {es es' : List Exchange} {r r' : Except DbError Unit} {s' s'' : σ}
  {e : DbError}

theorem traced_connect {opening : Except DbError (Connection σ)}
    (h : p.connect config s = (opening, s')) (log : List Exchange) :
    p.traced.connect config (log, s) = (opening.map Connection.traced, (log, s')) := by
  show ((p.connect config s).1.map Connection.traced, (log, (p.connect config s).2)) = _
  rw [h]

theorem talks_of_connect {c : Connection σ} (hconnect : p.connect config s = (.ok c, s'))
    (h : Talks (c.query probeQuery [] >>= fun _ => c.close)
      (c.traced.query probeQuery [] >>= fun _ => c.traced.close) s' es r s'') :
    Talks (p.testConnection config) (p.traced.testConnection config) s es r s'' := by
  refine ⟨?_, fun log => ?_⟩
  · rw [testConnection, step_bind_apply, hconnect]
    exact h.ends
  · rw [testConnection, step_bind_apply, traced_connect hconnect]
    exact h.tells log

/-- A course tells how the test ends and what it sends. -/
theorem Course.talks (h : p.Course config s es r s') :
    Talks (p.testConnection config) (p.traced.testConnection config) s es r s' := by
  cases h with
  | unreachable hconnect =>
    refine ⟨?_, fun log => ?_⟩
    · rw [testConnection, step_bind_apply, hconnect]
    · rw [testConnection, step_bind_apply, traced_connect hconnect, List.append_nil]
      rfl
  | refused hconnect hquery =>
    exact talks_of_connect hconnect (Connection.talks_query hquery).bind_error
  | answered hconnect hquery hclose =>
    exact talks_of_connect hconnect
      ((Connection.talks_query hquery).bind (talks_noted .close hclose))

/-- **A test goes one of three ways.** -/
theorem exists_course (p : Provider σ) (config : ConnectionConfig) (s : σ) :
    ∃ es r s', p.Course config s es r s' := by
  rcases hconnect : p.connect config s with ⟨e | c, s₁⟩
  · exact ⟨_, _, _, .unreachable hconnect⟩
  · rcases hquery : c.query probeQuery [] s₁ with ⟨e | result, s₂⟩
    · exact ⟨_, _, _, .refused hconnect hquery⟩
    · rcases hclose : c.close s₂ with ⟨r, s₃⟩
      exact ⟨_, _, _, .answered hconnect hquery hclose⟩

/-- And no other one. -/
theorem Course.unique (h : p.Course config s es r s') (h' : p.Course config s es' r' s'') :
    es = es' ∧ r = r' := by
  have htells := (h.talks.tells []).symm.trans (h'.talks.tells [])
  obtain ⟨rfl, h⟩ := Prod.mk.inj htells
  obtain ⟨rfl, -⟩ := Prod.mk.inj h
  exact ⟨rfl, rfl⟩

theorem FirstFailure.course (h : p.FirstFailure config s e) :
    ∃ es s', p.Course config s es (.error e) s' := by
  cases h with
  | opening hconnect => exact ⟨_, _, .unreachable hconnect⟩
  | query hconnect hquery => exact ⟨_, _, .refused hconnect hquery⟩
  | closing hconnect hquery hclose => exact ⟨_, _, .answered hconnect hquery hclose⟩

theorem Course.eq_error_iff (h : p.Course config s es r s') :
    r = .error e ↔ p.FirstFailure config s e := by
  constructor
  · rintro rfl
    cases h with
    | unreachable hconnect => exact .opening hconnect
    | refused hconnect hquery => exact .query hconnect hquery
    | answered hconnect hquery hclose => exact .closing hconnect hquery hclose
  · intro hfailure
    obtain ⟨es', s'', h'⟩ := hfailure.course
    exact (h.unique h').2

theorem Course.probeFails_iff (h : p.Course config s es r s') :
    p.ProbeFails config s ↔ ∃ e, es = [.query probeQuery [] (.error e)] := by
  constructor
  · rintro ⟨c, s₁, e, s₂, hconnect, hquery⟩
    exact ⟨e, (h.unique (.refused hconnect hquery)).1⟩
  · rintro ⟨e, rfl⟩
    cases h with
    | refused hconnect hquery => exact ⟨_, _, e, _, hconnect, hquery⟩

/-- A course ends with a call that closes, unless nothing was opened or the query failed. -/
theorem Course.countP_isClose (h : p.Course config s es r s') :
    es.countP Exchange.isClose ≤ p.opened config s ∧
      (es.countP Exchange.isClose = p.opened config s ↔ ¬p.ProbeFails config s) := by
  rw [h.probeFails_iff]
  cases h with
  | unreachable hconnect =>
    have hopened : p.opened config s = 0 := by rw [opened, hconnect]
    rw [hopened]
    exact ⟨Nat.le_refl _, iff_of_true rfl nofun⟩
  | @refused c e _ _ hconnect =>
    have hopened : p.opened config s = 1 := by rw [opened, hconnect]
    rw [hopened]
    exact ⟨Nat.zero_le 1, iff_of_false nofun (not_not_intro ⟨e, rfl⟩)⟩
  | answered hconnect =>
    have hopened : p.opened config s = 1 := by rw [opened, hconnect]
    rw [hopened]
    exact ⟨Nat.le_refl _, iff_of_true rfl nofun⟩

/-- **What a test leaves behind.** However opening a connection, the query and closing it end,
the test fails exactly if one of them does, with the error of the first. No connection is
closed twice; and one that was opened is closed exactly if the query did not fail. -/
theorem testConnection_closes_iff (p : Provider σ) (config : ConnectionConfig) (s : σ) :
    ∃ es r s', p.testConnection config s = (r, s') ∧
      p.traced.testConnection config ([], s) = (r, (es, s')) ∧
      es.countP Exchange.isClose ≤ p.opened config s ∧
      (es.countP Exchange.isClose = p.opened config s ↔ ¬p.ProbeFails config s) ∧
      ∀ e, r = .error e ↔ p.FirstFailure config s e := by
  obtain ⟨es, r, s', hcourse⟩ := exists_course p config s
  obtain ⟨hle, hiff⟩ := hcourse.countP_isClose
  exact ⟨es, r, s', hcourse.talks.ends, hcourse.talks.tells [], hle, hiff,
    fun e => hcourse.eq_error_iff⟩

/-- A provider that hands out this connection. -/
def handing (c : Connection Bool) : Provider Bool where
  engine := "e"
  connect _ := pure c
  connectionString config := config.host

/-- **A connection that is left open**: the query fails, and no call that closes follows. -/
theorem connection_left_open :
    let p := handing ({ failures := [("SELECT 1", .query "gone")] } : Script).connection
    let config : ConnectionConfig := { driver := "e" }
    let es : List Exchange := [.query "SELECT 1" [] (.error (.query "gone"))]
    p.traced.testConnection config ([], false) = (.error (.query "gone"), (es, false)) ∧
      p.opened config false = 1 ∧ es.countP Exchange.isClose = 0 :=
  ⟨rfl, rfl, rfl⟩

end Provider

end SqlDialect
