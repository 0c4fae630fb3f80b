import SqlDialect.ClickHouse.Client
import SqlDialect.Proofs.ClickHouse.Template
import SqlDialect.Proofs.Recording
/-!
# What is sent over a line

`transport.recorded` is a transport with a record of all requests, and `Sends` says all about an
action on both: what it does over `transport`, and that over the other one it does the same and
sends these requests.

A statement with parameters has one of four fates (`statementOver_fate`): the line is closed, a
parameter is an array, the parameters leave the statement incomplete, or one request is sent and
answered. In the first three nothing is sent and the line stays as it is.

`unbound_reaches_server`: a statement without parameters has the last fate on every open line,
and the request holds the text as it was given, whatever question marks are in it.
-/

namespace SqlDialect.ClickHouse

variable {τ α : Type}

/-- The same transport, with a record of all requests. -/
def Transport.recorded (transport : Transport τ) : Transport (List Request × τ) :=
  fun request (requests, world) =>
    let (response, world') := (transport request).run world
    (response, (requests ++ [request], world'))

def Line.withRequests (line : Line τ) (requests : List Request) : Line (List Request × τ) :=
  ⟨line.closed, (requests, line.world)⟩

/-- How an action ends on a line, and that the action `b` over a recorded transport ends like it
and sends these requests. -/
abbrev Sends (a : Action (Line τ) α) (b : Action (Line (List Request × τ)) α) (line : Line τ)
    (requests : List Request) (r : Except DbError α) (line' : Line τ) : Prop :=
  Action.Records (fun log line => line.withRequests log) a b line requests r line'

section

variable (client : Client) (transport : Transport τ) (line : Line τ)

theorem sends_send (request : Request) :
    Sends (send transport request) (send transport.recorded request) line [request]
      (.ok (transport request line.world).1)
      { line with world := (transport request line.world).2 } :=
  ⟨rfl, fun _ => rfl⟩

/-! ### Statements -/

variable {sql : String} {params : List Cell} {t : Template} (format : Option String)
  (onRequest onAnswer : String)

theorem sends_ask_nothing {reason : String} (h : t.statement? = .error reason) :
    Sends (ask client transport t format onRequest onAnswer)
      (ask client transport.recorded t format onRequest onAnswer) line []
      (.error (.query (onRequest ++ (RequestError.invalid reason).message))) line := by
  unfold ask
  rw [h]
  exact Action.records_ofExcept (.error _) line

/-- A complete statement is sent, and what its answer says is all there is to it. -/
theorem ask_eq_send {text : String} (h : t.statement? = .ok text) :
    ask client transport t format onRequest onAnswer =
      (send transport (client.request text format) >>= fun response =>
        Action.ofExcept ((bodyOf response).mapError fun e => .query (onAnswer ++ e.message))) := by
  unfold ask
  rw [h]
  refine congrArg (send transport (client.request text format) >>= ·) (funext fun response => ?_)
  cases bodyOf response with
  | ok body => rfl
  | error e => rfl

/-- So it is one request, and only its answer can fail. -/
theorem sends_ask {text : String} (h : t.statement? = .ok text) :
    ∃ r world, Sends (ask client transport t format onRequest onAnswer)
      (ask client transport.recorded t format onRequest onAnswer) line
      [client.request text format] r ⟨line.closed, world⟩ := by
  have hsend := sends_send transport line (client.request text format)
  rw [ask_eq_send client transport format onRequest onAnswer h,
    ask_eq_send client transport.recorded format onRequest onAnswer h]
  exact ⟨_, _, hsend.bind_ofExcept _⟩

/-- A statement with parameters, and what is read out of the body of its answer. -/
def statementOver (sql : String) (params : List Cell) (finish : List UInt8 → Except DbError α) :
    Action (Line τ) α := do
  ensureOpen
  let t ← Action.ofExcept (prepare sql params)
  let body ← ask client transport t format onRequest onAnswer
  Action.ofExcept (finish body)

theorem executeOver_eq (sql : String) (params : List Cell) :
    executeOver client transport sql params =
      statementOver client transport none "Execute failed: " "Execute failed: " sql params
        fun _ => .ok ⟨0⟩ := rfl

theorem queryOver_eq (sql : String) (params : List Cell) :
    queryOver client transport sql params =
      statementOver client transport (some "JSONEachRow") "Query failed: "
        "Failed to read query result: " sql params fun body => readChunks (client.chunks body) :=
  rfl

/-- What becomes of a statement on a line: what is sent, how it ends and what it leaves. -/
inductive Fate (client : Client) (format : Option String) (sql : String) (params : List Cell)
    (line : Line τ) : List Request → Except DbError α → Line τ → Prop
  | closed : line.closed = true → Fate client format sql params line [] (.error .closed) line
  | array : line.closed = false → (∃ c ∈ params, IsArray c) →
      Fate client format sql params line [] (.error .arrayParameter) line
  | incomplete (e : DbError) : line.closed = false → sent? sql params = none →
      (∀ c ∈ params, ¬IsArray c) → Fate client format sql params line [] (.error e) line
  | sent {text : String} {r : Except DbError α} (world : τ) : line.closed = false →
      sent? sql params = some text →
      Fate client format sql params line [client.request text format] r ⟨false, world⟩

def Client.Makes (client : Client) (r : Request) : Prop :=
  ∃ sql format, r = client.request sql format

variable {client transport line format onRequest onAnswer} {finish : List UInt8 → Except DbError α}

theorem Fate.makes {requests : List Request} {r : Except DbError α} {line' : Line τ}
    (h : Fate client format sql params line requests r line') :
    ∀ request ∈ requests, client.Makes request := by
  cases h with
  | sent world _ _ => exact List.forall_mem_singleton.mpr ⟨_, _, rfl⟩
  | _ => exact List.forall_mem_nil _

theorem statementOver_closed (h : line.closed = true) :
    Sends (statementOver client transport format onRequest onAnswer sql params finish)
      (statementOver client transport.recorded format onRequest onAnswer sql params finish) line []
      (.error .closed) line := by
  have hfails : Sends ensureOpen ensureOpen line [] (.error .closed) line := by
    refine ⟨?_, fun log => ?_⟩
    · rw [ensureOpen, if_pos h]
    · rw [List.append_nil, ensureOpen]
      exact congrArg (·, line.withRequests log) (if_pos h)
  exact hfails.bind_error

theorem sends_ensureOpen (h : line.closed = false) :
    Sends ensureOpen ensureOpen line [] (.ok ()) line := by
  have hopen : ¬line.closed = true := by simp [h]
  refine ⟨?_, fun log => ?_⟩
  · rw [ensureOpen, if_neg hopen]
  · rw [List.append_nil, ensureOpen]
    exact congrArg (·, line.withRequests log) (if_neg hopen)

theorem statementOver_refused (h : line.closed = false) {e : DbError}
    (hprepare : prepare sql params = .error e) :
    Sends (statementOver client transport format onRequest onAnswer sql params finish)
      (statementOver client transport.recorded format onRequest onAnswer sql params finish) line []
      (.error e) line := by
  show Sends _ _ line ([] ++ []) (.error e) line
  refine (sends_ensureOpen h).bind ?_
  rw [hprepare]
  exact (Action.records_ofExcept (.error e) line).bind_error

/-- On an open line a prepared statement is asked for. -/
theorem statementOver_prepared (h : line.closed = false) (hprepare : prepare sql params = .ok t)
    {requests : List Request} {r : Except DbError (List UInt8)} {line' : Line τ}
    (hask : Sends (ask client transport t format onRequest onAnswer)
      (ask client transport.recorded t format onRequest onAnswer) line requests r line') :
    Sends (statementOver client transport format onRequest onAnswer sql params finish)
      (statementOver client transport.recorded format onRequest onAnswer sql params finish) line
      requests (r >>= finish) line' := by
  show Sends _ _ line ([] ++ requests) (r >>= finish) line'
  refine (sends_ensureOpen h).bind ?_
  rw [hprepare]
  exact (Action.records_ofExcept (.ok t) line).bind (hask.bind_ofExcept finish)

variable (client transport line format onRequest onAnswer)

/-- **Every statement has one of these fates.** -/
theorem statementOver_fate (sql : String) (params : List Cell)
    (finish : List UInt8 → Except DbError α) :
    ∃ requests r line', Sends
      (statementOver client transport format onRequest onAnswer sql params finish)
      (statementOver client transport.recorded format onRequest onAnswer sql params finish) line
      requests r line' ∧ Fate client format sql params line requests r line' := by
  by_cases hclosed : line.closed = true
  · exact ⟨_, _, _, statementOver_closed hclosed, .closed hclosed⟩
  have hopen : line.closed = false := by simpa using hclosed
  cases hprepare : prepare sql params with
  | error e =>
    obtain ⟨rfl, harray⟩ := prepare_eq_error_iff.mp hprepare
    exact ⟨_, _, _, statementOver_refused hopen hprepare, .array hopen harray⟩
  | ok t =>
    have hsent : sent? sql params = t.statement?.toOption := by rw [sent?, hprepare]
    cases ht : t.statement? with
    | error reason =>
      have hno : ∀ c ∈ params, ¬IsArray c := by
        intro c hc harray
        rw [prepare_eq_error_iff.mpr ⟨rfl, c, hc, harray⟩] at hprepare
        cases hprepare
      rw [ht] at hsent
      have hask := sends_ask_nothing client transport line format onRequest onAnswer ht
      exact ⟨_, _, _, statementOver_prepared hopen hprepare hask, .incomplete _ hopen hsent hno⟩
    | ok text =>
      rw [ht] at hsent
      obtain ⟨r, world, hask⟩ := sends_ask client transport line format onRequest onAnswer ht
      rw [hopen] at hask
      exact ⟨_, _, _, statementOver_prepared hopen hprepare hask, .sent world hopen hsent⟩

end

/-! ### Statements without parameters -/

section

variable {client : Client} {transport : Transport τ} {line line' : Line τ} {sql : String}
  {format : Option String} {requests : List Request}

/-- On an open line a statement without parameters is always sent, as it is. -/
theorem Fate.of_unbound {r : Except DbError α} (hopen : line.closed = false)
    (h : Fate client format sql [] line requests r line') :
    requests = [client.request sql format] ∧ ∃ world, line' = ⟨false, world⟩ := by
  cases h with
  | closed hclosed =>
    rw [hopen] at hclosed
    cases hclosed
  | array _ harray =>
    obtain ⟨c, hc, -⟩ := harray
    cases hc
  | incomplete e _ hnone =>
    rw [sent?_nil] at hnone
    cases hnone
  | sent world _ htext =>
    rw [sent?_nil] at htext
    obtain rfl := Option.some.inj htext
    exact ⟨rfl, world, rfl⟩

theorem executeOver_unbound (client : Client) (transport : Transport τ) (sql : String)
    (hopen : line.closed = false) :
    ∃ r world, Sends (executeOver client transport sql [])
      (executeOver client transport.recorded sql []) line [client.request sql none] r
      ⟨false, world⟩ := by
  rw [executeOver_eq, executeOver_eq]
  obtain ⟨requests, r, line', hsends, hfate⟩ := statementOver_fate client transport line none
    "Execute failed: " "Execute failed: " sql [] fun _ => .ok (⟨0⟩ : Outcome)
  obtain ⟨rfl, world, rfl⟩ := hfate.of_unbound hopen
  exact ⟨r, world, hsends⟩

theorem queryOver_unbound (client : Client) (transport : Transport τ) (sql : String)
    (hopen : line.closed = false) :
    ∃ r world, Sends (queryOver client transport sql [])
      (queryOver client transport.recorded sql []) line
      [client.request sql (some "JSONEachRow")] r ⟨false, world⟩ := by
  rw [queryOver_eq, queryOver_eq]
  obtain ⟨requests, r, line', hsends, hfate⟩ := statementOver_fate client transport line
    (some "JSONEachRow") "Query failed: " "Failed to read query result: " sql []
    fun body => readChunks (client.chunks body)
  obtain ⟨rfl, world, rfl⟩ := hfate.of_unbound hopen
  exact ⟨r, world, hsends⟩

/-- **A batch on an open line** sends its statements as they are, in order, and all of them if it
succeeds. -/
theorem executeBatch_unbound (client : Client) (transport : Transport τ) (database : String)
    (statements : List String) (hopen : line.closed = false) :
    ∃ sent left r world, Sends ((connection client transport database).executeBatch statements)
      ((connection client transport.recorded database).executeBatch statements) line
      (sent.map (client.request · none)) r ⟨false, world⟩ ∧ statements = sent ++ left ∧
      (statements ≠ [] → sent ≠ []) ∧ ∀ n, r = .ok n → left = [] := by
  induction statements generalizing line with
  | nil =>
    obtain ⟨closed, world⟩ := line
    obtain rfl : closed = false := hopen
    exact ⟨[], [], .ok 0, world, Action.records_ofExcept (.ok 0) _, rfl, fun h => absurd rfl h,
      fun _ _ => rfl⟩
  | cons sql rest ih =>
    obtain ⟨r, world, hsql⟩ := executeOver_unbound client transport sql hopen
    cases r with
    | error e =>
      exact ⟨[sql], rest, .error e, world, hsql.bind_error, rfl, by simp, nofun⟩
    | ok outcome =>
      have hstill : (⟨false, world⟩ : Line τ).closed = false := rfl
      obtain ⟨sent, left, r, world', hrest, rfl, -, hall⟩ := ih hstill
      refine ⟨sql :: sent, left, r >>= fun n => .ok (outcome.affectedRows + n), world', ?_, rfl,
        by simp, fun n hn => ?_⟩
      · exact hsql.bind (hrest.bind_ofExcept fun n => .ok (outcome.affectedRows + n))
      · obtain ⟨m, hm, -⟩ := bind_eq_ok_iff.mp hn
        exact hall m hm

/-- **A statement without parameters reaches the server as it is.** Its template has no place, and
the statement it makes is the text, by the reader of the client and by every other reader from
left to right. So on an open line a query or a statement is sent with exactly this text, and so
are the statements of a batch, up to the first that fails. -/
theorem unbound_reaches_server (sql : String) :
    (∃ ps, prepare sql [] = .ok (.pieces ps) ∧ (∀ p ∈ ps, ¬p.IsPlace) ∧
      (Template.pieces ps).statement? = .ok sql) ∧
    (∀ read, LeftToRight read → read (escapePlaceholders sql).toList = sql.toList.map .char) ∧
    ∀ {τ : Type} (client : Client) (transport : Transport τ) (database : String) (line : Line τ),
      line.closed = false →
      let c := connection client transport.recorded database
      (∃ r, ∃ line' : Line τ, ∃ requests : List Request,
        c.execute sql [] (line.withRequests []) = (r, line'.withRequests requests) ∧
        requests.map (·.sql) = [sql]) ∧
      (∃ r, ∃ line' : Line τ, ∃ requests : List Request,
        c.query sql [] (line.withRequests []) = (r, line'.withRequests requests) ∧
        requests.map (·.sql) = [sql]) ∧
      ∀ statements, ∃ r, ∃ line' : Line τ, ∃ requests : List Request, ∃ left,
        c.executeBatch statements (line.withRequests []) = (r, line'.withRequests requests) ∧
        statements = requests.map (·.sql) ++ left ∧ ∀ n, r = .ok n → left = [] := by
  refine ⟨⟨_, prepare_nil sql, fun p hp => not_isPlace_of_mem_map hp, statement?_text sql⟩, ?_, ?_⟩
  · intro read hread
    rw [escapePlaceholders, String.toList_ofList]
    exact hread.read_escapeHoles sql.toList
  intro τ client transport database line hopen c
  refine ⟨?_, ?_, fun statements => ?_⟩
  · obtain ⟨r, world, hsends⟩ := executeOver_unbound client transport sql hopen
    exact ⟨r, _, _, hsends.tells [], rfl⟩
  · obtain ⟨r, world, hsends⟩ := queryOver_unbound client transport sql hopen
    exact ⟨r, _, _, hsends.tells [], rfl⟩
  · obtain ⟨sent, left, r, world, hsends, hstatements, -, hall⟩ :=
      executeBatch_unbound client transport database statements hopen
    refine ⟨r, _, _, left, hsends.tells [], ?_, hall⟩
    rw [hstatements, List.nil_append, List.map_map]
    exact congrArg (· ++ left) (List.map_id sent).symm

/-- A server that answers every request with nothing. -/
def silent : Transport Unit := fun _ => pure (some ⟨200, []⟩)

/-- Question marks alone, in pairs and in front of the word for fields. -/
theorem unbound_reaches_server_of_marks :
    pieces (escapePlaceholders "a ?? '???' ?fields").toList =
        "a ?? '???' ?fields".toList.map .char ∧
      ∃ r, ∃ line' : Line Unit, ∃ requests : List Request,
        (connection {} silent.recorded "d").execute "a ?? '???' ?fields" []
            ((⟨false, ()⟩ : Line Unit).withRequests []) = (r, line'.withRequests requests) ∧
          requests.map (·.sql) = ["a ?? '???' ?fields"] := by
  obtain ⟨-, hread, hsent⟩ := unbound_reaches_server "a ?? '???' ?fields"
  exact ⟨hread pieces leftToRight_pieces, (hsent {} silent "d" ⟨false, ()⟩ rfl).1⟩

end

end SqlDialect.ClickHouse
