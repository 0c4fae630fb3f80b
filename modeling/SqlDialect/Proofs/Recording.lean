import SqlDialect.Connection.Basic
import SqlDialect.Proofs.Traversal
/-!
# Runs with a record

An action can be run beside a record of what it does: calls of a connection, requests to a server,
what a generator is asked for. `Records` says all about both runs, that the one with the record
ends like the one without and which events it adds. Actions in a row add their events in a row
(`Records.bind`), up to the first action that fails (`Records.bind_error`), and what is known
already adds none (`records_ofExcept`).
-/

namespace SqlDialect.Action

variable {σ ρ ω α β : Type}

theorem settled_apply (a : Action σ α) (s : σ) : a.settled s = (.ok (a s).1, (a s).2) := rfl

theorem ofExcept_bind_pure (r : Except DbError α) (f : α → β) :
    (ofExcept r >>= fun x => pure (f x) : Action σ β) = ofExcept (r.map f) := by
  funext s
  rw [step_bind_apply]
  cases r <;> rfl

/-- How an action ends from a state, and that the action `b` ends like it and adds these events to
every record, where `beside log s` is the state `s` with the record `log`. -/
structure Records (beside : List ω → σ → ρ) (a : Action σ α) (b : Action ρ α) (s : σ)
    (events : List ω) (r : Except DbError α) (s' : σ) : Prop where
  ends : a s = (r, s')
  tells : ∀ log, b (beside log s) = (r, beside (log ++ events) s')

variable {beside : List ω → σ → ρ} {a : Action σ α} {b : Action ρ α} {f : α → Action σ β}
  {g : α → Action ρ β} {s s' s'' : σ} {events events' : List ω}

theorem records_ofExcept (r : Except DbError α) (s : σ) :
    Records beside (ofExcept r) (ofExcept r) s [] r s := by
  refine ⟨rfl, fun log => ?_⟩
  rw [List.append_nil]
  rfl

/-- **Actions in a row** add their events in a row. -/
theorem Records.bind {x : α} {r : Except DbError β} (ha : Records beside a b s events (.ok x) s')
    (hf : Records beside (f x) (g x) s' events' r s'') :
    Records beside (a >>= f) (b >>= g) s (events ++ events') r s'' := by
  refine ⟨?_, fun log => ?_⟩
  · rw [step_bind_apply, ha.ends]
    exact hf.ends
  · rw [step_bind_apply, ha.tells, ← List.append_assoc]
    exact hf.tells (log ++ events)

/-- An action that fails is the last one. -/
theorem Records.bind_error {e : DbError} (ha : Records beside a b s events (.error e) s') :
    Records beside (a >>= f) (b >>= g) s events (.error e) s' := by
  refine ⟨?_, fun log => ?_⟩
  · rw [step_bind_apply, ha.ends]
  · rw [step_bind_apply, ha.tells]

/-- What is made of a result adds nothing. -/
theorem Records.bind_ofExcept {r : Except DbError α} (ha : Records beside a b s events r s')
    (finish : α → Except DbError β) :
    Records beside (a >>= fun x => ofExcept (finish x)) (b >>= fun x => ofExcept (finish x)) s
      events (r >>= finish) s' := by
  cases r with
  | error e => exact ha.bind_error
  | ok x =>
    have h := ha.bind (f := fun x => ofExcept (finish x)) (g := fun x => ofExcept (finish x))
      (records_ofExcept (finish x) s')
    rwa [List.append_nil] at h

theorem Records.settled {r : Except DbError α} (ha : Records beside a b s events r s') :
    Records beside a.settled b.settled s events (.ok r) s' := by
  refine ⟨?_, fun log => ?_⟩
  · rw [settled_apply, ha.ends]
  · rw [settled_apply, ha.tells]

end SqlDialect.Action
