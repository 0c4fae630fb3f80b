import SqlDialect.Proofs.Connection.Exchange
import SqlDialect.Proofs.ResultSet
/-!
# Plans of queries

A `Plan` is a tree of queries that branches on their replies. It runs on every
connection, so what can be said of the plan holds of all runs: a run follows a
`Path` of the plan (`Plan.exists_path`), and its exchanges are those of the path.

* `Plan.Asks` bounds the queries of a plan and `Plan.Within` their number.
* A plan that `Fails` by some readings fails exactly if a query does or an answer has a
  fault, and with that error. A query after which a plan goes on adds one reading
  (`Fails.query`).
* Two plans are `Similar` if they differ in nothing but parameters and results. Then
  the next query of a run depends on the replies so far alone (`Similar.texts_eq`).
-/

namespace SqlDialect

/-- What is asked of a connection, and what comes of the replies. -/
inductive Plan (α : Type)
  | done (r : Except DbError α)
  | ask (sql : String) (params : List Cell) (next : Except DbError ResultSet → Plan α)

namespace Plan

variable {σ α β γ : Type}

/-- A query without whose answer a plan does not go on. -/
def query (sql : String) (params : List Cell) (next : ResultSet → Plan α) : Plan α :=
  ask sql params fun
    | .ok result => next result
    | .error e => done (.error e)

def run (c : Connection σ) : Plan α → Action σ α
  | done r => Action.ofExcept r
  | ask sql params next => do
    let reply ← (c.query sql params).settled
    (next reply).run c

theorem run_query (c : Connection σ) (sql : String) (params : List Cell)
    (next : ResultSet → Plan α) :
    (query sql params next).run c = c.query sql params >>= fun result => (next result).run c := by
  funext s
  rw [query, run, step_bind_apply, step_bind_apply, Action.settled_apply]
  rcases c.query sql params s with ⟨reply, s'⟩
  cases reply <;> rfl

/-! ### Paths -/

/-- The exchanges on the way to an end of a plan. -/
inductive Path : Plan α → List Exchange → Except DbError α → Prop
  | done (r : Except DbError α) : Path (done r) [] r
  | ask {sql : String} {params : List Cell} {next : Except DbError ResultSet → Plan α}
      {es : List Exchange} {r : Except DbError α} (reply : Except DbError ResultSet)
      (h : Path (next reply) es r) : Path (ask sql params next) (.query sql params reply :: es) r

theorem path_done_iff {r r' : Except DbError α} {es : List Exchange} :
    (done r).Path es r' ↔ es = [] ∧ r' = r := by
  constructor
  · rintro ⟨⟩
    exact ⟨rfl, rfl⟩
  · rintro ⟨rfl, rfl⟩
    exact .done r'

theorem path_ask_iff {sql : String} {params : List Cell} {next : Except DbError ResultSet → Plan α}
    {es : List Exchange} {r : Except DbError α} :
    (ask sql params next).Path es r ↔
      ∃ reply rest, es = .query sql params reply :: rest ∧ (next reply).Path rest r := by
  constructor
  · rintro ⟨⟩
    exact ⟨_, _, rfl, ‹_›⟩
  · rintro ⟨reply, rest, rfl, h⟩
    exact .ask reply h

/-- **A run follows a path**, on every connection. -/
theorem exists_path (p : Plan α) (c : Connection σ) (s : σ) :
    ∃ es r s', Action.Talks (p.run c) (p.run c.traced) s es r s' ∧ p.Path es r := by
  induction p generalizing s with
  | done r => exact ⟨[], r, s, Action.records_ofExcept r s, .done r⟩
  | ask sql params next ih =>
    rcases hsql : c.query sql params s with ⟨reply, s₁⟩
    obtain ⟨es, r, s₂, htalks, hpath⟩ := ih reply s₁
    exact ⟨_, r, s₂, (Connection.talks_query hsql).settled.bind htalks, .ask reply hpath⟩

/-! ### Which queries, and how many -/

/-- All queries of a plan are of this kind. -/
def Asks (kind : String → List Cell → Prop) : Plan α → Prop
  | done _ => True
  | ask sql params next => kind sql params ∧ ∀ reply, (next reply).Asks kind

theorem Asks.of_path {kind : String → List Cell → Prop} {p : Plan α} {es : List Exchange}
    {r : Except DbError α} (h : p.Asks kind) (hpath : p.Path es r) :
    ∀ x ∈ es, ∃ sql params reply, x = .query sql params reply ∧ kind sql params := by
  induction hpath with
  | done r => exact fun x hx => absurd hx List.not_mem_nil
  | ask reply _ ih =>
    exact List.forall_mem_cons.mpr ⟨⟨_, _, reply, rfl, h.1⟩, ih (h.2 reply)⟩

/-- A plan has at most so many queries in a row. -/
def Within : Nat → Plan α → Prop
  | _, done _ => True
  | 0, ask .. => False
  | n + 1, ask _ _ next => ∀ reply, (next reply).Within n

theorem Within.of_path {n : Nat} {p : Plan α} {es : List Exchange} {r : Except DbError α}
    (h : p.Within n) (hpath : p.Path es r) : es.length ≤ n := by
  induction hpath generalizing n with
  | done r => exact Nat.zero_le n
  | ask reply _ ih =>
    cases n with
    | zero => exact h.elim
    | succ n => exact Nat.succ_le_succ (ih (h reply))

theorem Asks.query {kind : String → List Cell → Prop} {sql : String} {params : List Cell}
    {next : ResultSet → Plan α} (h : kind sql params) (hnext : ∀ result, (next result).Asks kind) :
    (query sql params next).Asks kind := by
  refine ⟨h, fun reply => ?_⟩
  cases reply with
  | error e => exact trivial
  | ok result => exact hnext result

theorem Within.query {n : Nat} {sql : String} {params : List Cell} {next : ResultSet → Plan α}
    (hnext : ∀ result, (next result).Within n) : (query sql params next).Within (n + 1) := by
  intro reply
  cases reply with
  | error e => cases n <;> exact trivial
  | ok result => exact hnext result

/-! ### How a plan fails -/

end Plan

/-- A query that failed with this error. -/
def Refused (e : DbError) (es : List Exchange) : Prop :=
  ∃ sql params, Exchange.query sql params (.error e) ∈ es

/-- The fault of an answer that is read for something. -/
def Exchange.fault? (reading : Reading) : Exchange → Option DbError
  | .query _ _ (.ok result) => reading.fault? result
  | _ => none

/-- The first fault in the answers, each read for what it is to be read for. -/
def firstFault? (readings : List Reading) (es : List Exchange) : Option DbError :=
  (es.zip readings).findSome? fun q => q.1.fault? q.2

theorem firstFault?_answer (reading : Reading) (readings : List Reading) (sql : String)
    (params : List Cell) (result : ResultSet) (es : List Exchange) :
    firstFault? (reading :: readings) (.query sql params (.ok result) :: es) =
      (reading.fault? result).or (firstFault? readings es) := by
  rw [firstFault?, List.zip_cons_cons, List.findSome?_cons, Exchange.fault?]
  cases reading.fault? result <;> rfl

namespace Plan

/-- A plan fails exactly with the errors of its queries and the faults of their answers. -/
def Fails (readings : List Reading) (p : Plan α) : Prop :=
  ∀ es r, p.Path es r → ∀ e, r = .error e ↔ Refused e es ∨ firstFault? readings es = some e

theorem fails_done (readings : List Reading) (a : α) : (done (.ok a)).Fails readings := by
  intro es r h e
  obtain ⟨rfl, rfl⟩ := path_done_iff.mp h
  simp [Refused, firstFault?]

/-- **A query and what follows it.** The plan has to end with the fault of the answer,
if there is one. -/
theorem Fails.query {reading : Reading} {readings : List Reading} {sql : String}
    {params : List Cell} {next : ResultSet → Plan α}
    (hfault : ∀ result e, reading.fault? result = some e → next result = done (.error e))
    (hnext : ∀ result, reading.fault? result = none → (next result).Fails readings) :
    (query sql params next).Fails (reading :: readings) := by
  intro es r h e
  obtain ⟨reply, rest, rfl, hrest⟩ := path_ask_iff.mp h
  cases reply with
  | error e' =>
    obtain ⟨rfl, rfl⟩ := path_done_iff.mp hrest
    simp [Refused, firstFault?, Exchange.fault?, eq_comm (a := e)]
  | ok result =>
    have hrest : (next result).Path rest r := hrest
    have hrefused : Refused e (.query sql params (.ok result) :: rest) ↔ Refused e rest := by
      simp [Refused]
    rw [hrefused, firstFault?_answer]
    cases hread : reading.fault? result with
    | none => exact hnext result hread rest r hrest e
    | some e' =>
      rw [hfault result e' hread] at hrest
      obtain ⟨rfl, rfl⟩ := path_done_iff.mp hrest
      rw [Option.some_or, Except.error.injEq, Option.some.injEq]
      exact (or_iff_right fun ⟨_, _, h⟩ => List.not_mem_nil h).symm

theorem fails_query {reading : Reading} {sql : String} {params : List Cell}
    {read : ResultSet → Except DbError α}
    (hread : ∀ result e, read result = .error e ↔ reading.fault? result = some e) :
    (query sql params fun result => done (read result)).Fails [reading] := by
  refine .query (fun result e he => congrArg done ((hread result e).mpr he)) fun result hnone => ?_
  cases hresult : read result with
  | error e =>
    rw [(hread result e).mp hresult] at hnone
    cases hnone
  | ok a => exact fails_done [] a

/-! ### Plans that differ in parameters -/

/-- Two plans that send the same texts, whatever the replies. -/
inductive Similar : Plan α → Plan β → Prop
  | done (r : Except DbError α) (r' : Except DbError β) : Similar (done r) (done r')
  | ask {next : Except DbError ResultSet → Plan α} {next' : Except DbError ResultSet → Plan β}
      (sql : String) (params params' : List Cell)
      (h : ∀ reply, Similar (next reply) (next' reply)) :
      Similar (ask sql params next) (ask sql params' next')

theorem Similar.query {next : ResultSet → Plan α} {next' : ResultSet → Plan β} (sql : String)
    (params params' : List Cell) (h : ∀ result, Similar (next result) (next' result)) :
    Similar (query sql params next) (query sql params' next') := by
  refine .ask sql params params' fun reply => ?_
  cases reply with
  | error e => exact .done _ _
  | ok result => exact h result

theorem Similar.symm {p : Plan α} {p' : Plan β} (h : Similar p p') : Similar p' p := by
  induction h with
  | done r r' => exact .done r' r
  | ask sql params params' _ ih => exact .ask sql params' params ih

theorem Similar.trans {p : Plan α} {p' : Plan β} {p'' : Plan γ} (h : Similar p p')
    (h' : Similar p' p'') : Similar p p'' := by
  induction h generalizing p'' with
  | done r r' =>
    cases h'
    exact .done _ _
  | ask sql params params' _ ih =>
    cases h' with
    | ask _ _ params'' hnext => exact .ask sql params params'' fun reply => ih reply (hnext reply)

end Plan

def Exchange.text : Exchange → String
  | query sql _ _ | execute sql _ _ => sql
  | close _ => ""

/-- Two exchanges that ended alike. -/
def Exchange.SameReply : Exchange → Exchange → Prop
  | query _ _ reply, query _ _ reply' => reply = reply'
  | execute _ _ reply, execute _ _ reply' => reply = reply'
  | close reply, close reply' => reply = reply'
  | _, _ => False

/-- The exchanges of two runs ended alike, as far as both go. -/
def AnsweredAlike (es es' : List Exchange) : Prop := ∀ q ∈ es.zip es', q.1.SameReply q.2

/-- **The next query depends on the replies alone.** If the first `n` replies to two
plans that differ in parameters are the same, so are the first `n + 1` texts. -/
theorem Plan.Similar.texts_eq {α β : Type} {p : Plan α} {p' : Plan β} (h : Similar p p')
    {es es' : List Exchange} {r : Except DbError α} {r' : Except DbError β} (hpath : p.Path es r)
    (hpath' : p'.Path es' r') {n : Nat} (halike : AnsweredAlike (es.take n) (es'.take n)) :
    (es.take (n + 1)).map Exchange.text = (es'.take (n + 1)).map Exchange.text := by
  induction h generalizing es es' n with
  | done =>
    obtain ⟨rfl, -⟩ := path_done_iff.mp hpath
    obtain ⟨rfl, -⟩ := path_done_iff.mp hpath'
    rfl
  | ask sql params params' _ ih =>
    obtain ⟨reply, rest, rfl, hrest⟩ := path_ask_iff.mp hpath
    obtain ⟨reply', rest', rfl, hrest'⟩ := path_ask_iff.mp hpath'
    cases n with
    | zero => rfl
    | succ n =>
      rw [AnsweredAlike, List.take_succ_cons, List.take_succ_cons, List.zip_cons_cons,
        List.forall_mem_cons] at halike
      obtain ⟨hreply, halike⟩ := halike
      obtain rfl : reply = reply' := hreply
      rw [List.take_succ_cons, List.take_succ_cons, List.map_cons, List.map_cons,
        ih reply hrest hrest' halike]
      rfl

end SqlDialect
