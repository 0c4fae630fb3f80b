import SqlDialect.Proofs.ClickHouse.Traffic
/-!
# Sessions

A session is any sequence of operations on one connection, and a `Turn` is one of them with its
reply and the requests that were sent for it. `Step` lists all that an operation can do: closing,
nothing at all, failing on a closed line, failing before anything is sent, or sending requests.
Only the first closes the line and only the last one changes what is behind it.

`closed_stays_closed` reads off this list, for every turn of every session, what it sends and how
it fails; and that leaving out a turn that sends nothing changes no other turn, unless it is the
one that closes the line.
-/

namespace SqlDialect

inductive Operation
  | query (sql : String) (params : List Cell)
  | execute (sql : String) (params : List Cell)
  | executeBatch (statements : List String)
  | close

inductive Reply
  | rows (r : Except DbError ResultSet)
  | outcome (r : Except DbError Outcome)
  | count (r : Except DbError UInt64)
  | done (r : Except DbError Unit)

def failure? {α : Type} : Except DbError α → Option DbError
  | .ok _ => none
  | .error e => some e

def Reply.error? : Reply → Option DbError
  | rows r => failure? r
  | outcome r => failure? r
  | count r => failure? r
  | done r => failure? r

def Operation.params : Operation → List Cell
  | query _ params | execute _ params => params
  | executeBatch _ | close => []

namespace Connection

variable {σ : Type}

def perform (c : Connection σ) : Operation → σ → Reply × σ
  | .query sql params, s => let (r, s') := c.query sql params s; (.rows r, s')
  | .execute sql params, s => let (r, s') := c.execute sql params s; (.outcome r, s')
  | .executeBatch statements, s => let (r, s') := c.executeBatch statements s; (.count r, s')
  | .close, s => let (r, s') := c.close s; (.done r, s')

def performAll (c : Connection σ) : List Operation → σ → List Reply × σ
  | [], s => ([], s)
  | op :: ops, s =>
    let (reply, s') := c.perform op s
    let (replies, last) := c.performAll ops s'
    (reply :: replies, last)

end Connection

namespace ClickHouse

variable {τ : Type}

/-- An operation with its reply and the requests that were sent for it. -/
structure Turn where
  operation : Operation
  reply : Reply
  requests : List Request

/-- An operation on a connection whose requests are recorded. -/
def turn (client : Client) (transport : Transport τ) (database : String) (op : Operation)
    (line : Line τ) : Turn × Line τ :=
  let (reply, line') :=
    (connection client transport.recorded database).perform op (line.withRequests [])
  (⟨op, reply, line'.world.1⟩, ⟨line'.closed, line'.world.2⟩)

/-- The turns of operations one after the other, and the line that they leave. -/
def session (client : Client) (transport : Transport τ) (database : String) :
    List Operation → Line τ → List Turn × Line τ
  | [], line => ([], line)
  | op :: ops, line =>
    let (t, line') := turn client transport database op line
    let (ts, last) := session client transport database ops line'
    (t :: ts, last)

/-! ### One operation -/

/-- There is something to be sent for an operation, and its parameters fit it. -/
def Fits : Operation → Prop
  | .query sql params | .execute sql params => Fit sql params
  | .executeBatch statements => statements ≠ []
  | .close => False

theorem Fits.no_array {op : Operation} (h : Fits op) : ∀ c ∈ op.params, ¬IsArray c := by
  have hfit {sql : String} {params : List Cell} (h : Fit sql params) :
      ∀ c ∈ params, ¬IsArray c := by
    rcases h with rfl | ⟨hno, -⟩
    · exact List.forall_mem_nil _
    · exact hno
  cases op with
  | query sql params => exact hfit h
  | execute sql params => exact hfit h
  | executeBatch statements => exact List.forall_mem_nil _
  | close => exact h.elim

/-- What an operation can do on a line: the requests that are sent for it, its reply and the line
that it leaves. -/
inductive Step (line : Line τ) : Operation → List Request → Reply → Line τ → Prop
  | close : Step line .close [] (.done (.ok ())) { line with closed := true }
  | nothing : Step line (.executeBatch []) [] (.count (.ok 0)) line
  | closed {op : Operation} {reply : Reply} : line.closed = true → op ≠ .close →
      op ≠ .executeBatch [] → reply.error? = some .closed → Step line op [] reply line
  | array {op : Operation} {reply : Reply} : line.closed = false →
      (∃ c ∈ op.params, IsArray c) → reply.error? = some .arrayParameter →
      Step line op [] reply line
  | incomplete {op : Operation} {reply : Reply} (e : DbError) : line.closed = false →
      op ≠ .close → ¬Fits op → (∀ c ∈ op.params, ¬IsArray c) → reply.error? = some e →
      Step line op [] reply line
  | sent {op : Operation} {requests : List Request} {reply : Reply} (world : τ) :
      line.closed = false → Fits op → requests ≠ [] → Step line op requests reply ⟨false, world⟩

/-- The fate of a statement is a step of the operation that it belongs to. -/
theorem Fate.step {α : Type} {client : Client} {format : Option String} {sql : String}
    {line line' : Line τ} {requests : List Request} {r : Except DbError α} (op : Operation)
    {reply : Reply} (h : Fate client format sql op.params line requests r line')
    (hcall : op ≠ .close ∧ op ≠ .executeBatch []) (hfits : Fits op ↔ Fit sql op.params)
    (hreply : reply.error? = failure? r) : Step line op requests reply line' := by
  rw [← sent?_isSome_iff] at hfits
  cases h with
  | closed hclosed => exact .closed hclosed hcall.1 hcall.2 hreply
  | array hopen harray => exact .array hopen harray hreply
  | incomplete e hopen hnone hno =>
    refine .incomplete e hopen hcall.1 ?_ hno hreply
    rw [hfits, hnone]
    exact Bool.false_ne_true
  | sent world hopen htext =>
    refine .sent world hopen ?_ (List.cons_ne_nil _ _)
    rw [hfits, htext]
    rfl

section

variable {client : Client} {transport : Transport τ} {database : String} {line line' : Line τ}
  {requests : List Request}

/-- An operation has this step, with or without a record of its requests. -/
structure Performs (client : Client) (transport : Transport τ) (database : String) (line : Line τ)
    (op : Operation) (requests : List Request) (reply : Reply) (line' : Line τ) : Prop where
  ends : (connection client transport database).perform op line = (reply, line')
  tells : ∀ log, (connection client transport.recorded database).perform op
    (line.withRequests log) = (reply, line'.withRequests (log ++ requests))

theorem Performs.turn_eq {op : Operation} {reply : Reply}
    (h : Performs client transport database line op requests reply line') :
    turn client transport database op line = (⟨op, reply, requests⟩, line') := by
  simp only [turn, h.tells, List.nil_append]
  rfl

theorem performs_query {sql : String} {params : List Cell} {r : Except DbError ResultSet}
    (h : Sends (queryOver client transport sql params)
      (queryOver client transport.recorded sql params) line requests r line') :
    Performs client transport database line (.query sql params) requests (.rows r) line' := by
  refine ⟨?_, fun log => ?_⟩
  · simp only [Connection.perform, connection, h.ends]
  · simp only [Connection.perform, connection, h.tells]

theorem performs_execute {sql : String} {params : List Cell} {r : Except DbError Outcome}
    (h : Sends (executeOver client transport sql params)
      (executeOver client transport.recorded sql params) line requests r line') :
    Performs client transport database line (.execute sql params) requests (.outcome r) line' := by
  refine ⟨?_, fun log => ?_⟩
  · simp only [Connection.perform, connection, h.ends]
  · simp only [Connection.perform, connection, h.tells]

theorem performs_executeBatch {statements : List String} {r : Except DbError UInt64}
    (h : Sends ((connection client transport database).executeBatch statements)
      ((connection client transport.recorded database).executeBatch statements) line requests r
      line') :
    Performs client transport database line (.executeBatch statements) requests (.count r)
      line' := by
  refine ⟨?_, fun log => ?_⟩
  · simp only [Connection.perform, h.ends]
  · simp only [Connection.perform, h.tells]

theorem performs_close :
    Performs client transport database line .close [] (.done (.ok ()))
      { line with closed := true } := by
  refine ⟨rfl, fun log => ?_⟩
  rw [List.append_nil]
  rfl

/-- On a closed line the first statement of a batch fails. -/
theorem executeBatch_closed (hclosed : line.closed = true) (sql : String) (rest : List String) :
    Sends ((connection client transport database).executeBatch (sql :: rest))
      ((connection client transport.recorded database).executeBatch (sql :: rest)) line []
      (.error .closed) line := by
  have hsql : Sends (executeOver client transport sql [])
      (executeOver client transport.recorded sql []) line [] (.error .closed) line := by
    rw [executeOver_eq, executeOver_eq]
    exact statementOver_closed hclosed
  exact hsql.bind_error

/-- **Every operation takes one of these steps**, and sends its requests by its client. -/
theorem exists_step (client : Client) (transport : Transport τ) (database : String)
    (line : Line τ) (op : Operation) :
    ∃ requests reply line', Performs client transport database line op requests reply line' ∧
      Step line op requests reply line' ∧ ∀ r ∈ requests, client.Makes r := by
  cases op with
  | query sql params =>
    obtain ⟨requests, r, line', hsends, hfate⟩ := statementOver_fate client transport line
      (some "JSONEachRow") "Query failed: " "Failed to read query result: " sql params
      fun body => readChunks (client.chunks body)
    rw [← queryOver_eq, ← queryOver_eq] at hsends
    exact ⟨_, _, _, performs_query hsends,
      Fate.step (.query sql params) hfate (by simp) Iff.rfl rfl, hfate.makes⟩
  | execute sql params =>
    obtain ⟨requests, r, line', hsends, hfate⟩ := statementOver_fate client transport line none
      "Execute failed: " "Execute failed: " sql params fun _ => .ok (⟨0⟩ : Outcome)
    rw [← executeOver_eq, ← executeOver_eq] at hsends
    exact ⟨_, _, _, performs_execute hsends,
      Fate.step (.execute sql params) hfate (by simp) Iff.rfl rfl, hfate.makes⟩
  | executeBatch statements =>
    cases statements with
    | nil =>
      exact ⟨_, _, _, performs_executeBatch (Action.records_ofExcept (.ok 0) line), .nothing,
        List.forall_mem_nil _⟩
    | cons sql rest =>
      by_cases hclosed : line.closed = true
      · exact ⟨_, _, _, performs_executeBatch (executeBatch_closed hclosed sql rest),
          .closed hclosed (by simp) (by simp) rfl, List.forall_mem_nil _⟩
      · have hopen : line.closed = false := by simpa using hclosed
        obtain ⟨sent, left, r, world, hsends, -, hne, -⟩ :=
          executeBatch_unbound client transport database (sql :: rest) hopen
        refine ⟨_, _, _, performs_executeBatch hsends,
          .sent world hopen (List.cons_ne_nil _ _) ?_, List.forall_mem_map.mpr ?_⟩
        · simpa using hne (List.cons_ne_nil _ _)
        · exact fun text _ => ⟨text, none, rfl⟩
  | close => exact ⟨_, _, _, performs_close, .close, List.forall_mem_nil _⟩

end

/-! ### What a step leaves -/

section

variable {line line' : Line τ} {op : Operation} {requests : List Request} {reply : Reply}

/-- A line is closed after a step if it was before, or if the step closes it. -/
theorem Step.closed_iff (h : Step line op requests reply line') :
    line'.closed = true ↔ op = .close ∨ line.closed = true := by
  cases h with
  | close => simp
  | nothing => simp
  | closed hclosed hclose => simp [hclose]
  | array hopen harray =>
    have hclose : op ≠ .close := by
      rintro rfl
      obtain ⟨c, hc, -⟩ := harray
      cases hc
    simp [hclose]
  | incomplete e hopen hclose => simp [hclose]
  | sent world hopen hfits =>
    have hclose : op ≠ .close := by
      rintro rfl
      exact hfits
    simp [hclose, hopen]

/-- On a closed line nothing is sent, and what would have to be fails. -/
theorem Step.of_closed (h : Step line op requests reply line') (hclosed : line.closed = true) :
    requests = [] ∧ (reply.error? = some .closed ↔ op ≠ .close ∧ op ≠ .executeBatch []) := by
  cases h with
  | close => exact ⟨rfl, by simp [Reply.error?, failure?]⟩
  | nothing => exact ⟨rfl, by simp [Reply.error?, failure?]⟩
  | closed _ hclose hbatch herror => exact ⟨rfl, iff_of_true herror ⟨hclose, hbatch⟩⟩
  | array hopen => simp [hopen] at hclosed
  | incomplete e hopen => simp [hopen] at hclosed
  | sent world hopen => simp [hopen] at hclosed

/-- On an open line something is sent exactly if the parameters fit. -/
theorem Step.of_open (h : Step line op requests reply line') (hopen : line.closed = false) :
    (requests ≠ [] ↔ Fits op) ∧
      ((∃ c ∈ op.params, IsArray c) → reply.error? = some .arrayParameter) := by
  cases h with
  | close => simp [Fits, Operation.params]
  | nothing => simp [Fits, Operation.params]
  | closed hclosed => simp [hopen] at hclosed
  | array _ harray herror =>
    obtain ⟨c, hc, hitems⟩ := harray
    exact ⟨iff_of_false (by simp) fun hfits => hfits.no_array c hc hitems, fun _ => herror⟩
  | incomplete e _ _ hfits hno =>
    refine ⟨iff_of_false (by simp) hfits, ?_⟩
    rintro ⟨c, hc, hitems⟩
    exact absurd hitems (hno c hc)
  | sent world _ hfits hne =>
    refine ⟨iff_of_true hne hfits, ?_⟩
    rintro ⟨c, hc, hitems⟩
    exact absurd hitems (hfits.no_array c hc)

/-- **A step that sends nothing leaves the line as it is**, unless it is the one that closes it. -/
theorem Step.eq_of_idle (h : Step line op requests reply line') (hidle : requests = [])
    (hclose : op ≠ .close ∨ line.closed = true) : line' = line := by
  cases h with
  | close =>
    have hclosed := hclose.resolve_left (fun hne => hne rfl)
    rw [← hclosed]
  | sent world _ _ hne => exact absurd hidle hne
  | _ => rfl

theorem Step.reply_close (h : Step line .close requests reply line') :
    requests = [] ∧ reply = .done (.ok ()) := by
  cases h with
  | close => exact ⟨rfl, rfl⟩
  | closed _ hclose => exact absurd rfl hclose
  | array _ harray =>
    obtain ⟨c, hc, -⟩ := harray
    cases hc
  | incomplete _ _ hclose => exact absurd rfl hclose
  | sent _ _ hfits => exact hfits.elim

end

/-! ### Sessions -/

section

variable (client : Client) (transport : Transport τ) (database : String)

theorem session_append (xs ys : List Operation) (line : Line τ) :
    session client transport database (xs ++ ys) line =
      let (ts, middle) := session client transport database xs line
      let (ts', last) := session client transport database ys middle
      (ts ++ ts', last) := by
  induction xs generalizing line with
  | nil => rfl
  | cons op xs ih =>
    simp only [List.cons_append, session]
    rw [ih]

theorem map_operation_session (ops : List Operation) (line : Line τ) :
    (session client transport database ops line).1.map (·.operation) = ops := by
  induction ops generalizing line with
  | nil => rfl
  | cons op ops ih =>
    simp only [session, List.map_cons, ih]
    rfl

/-- A record of the requests makes no difference to the replies. -/
theorem performAll_eq_session (ops : List Operation) (line : Line τ) :
    (connection client transport database).performAll ops line =
      ((session client transport database ops line).1.map (·.reply),
        (session client transport database ops line).2) := by
  induction ops generalizing line with
  | nil => rfl
  | cons op ops ih =>
    obtain ⟨requests, reply, line', hperforms, -⟩ :=
      exists_step client transport database line op
    simp only [Connection.performAll, session, hperforms.ends, hperforms.turn_eq, ih, List.map_cons]

/-- **All that a connection sends** it sends by its client. -/
theorem performAll_recorded (ops : List Operation) (line : Line τ) (log : List Request) :
    ∃ replies requests, ∃ last : Line τ,
      (connection client transport.recorded database).performAll ops (line.withRequests log) =
        (replies, last.withRequests (log ++ requests)) ∧
      ∀ r ∈ requests, client.Makes r := by
  induction ops generalizing line log with
  | nil =>
    refine ⟨[], [], line, ?_, List.forall_mem_nil _⟩
    rw [List.append_nil]
    rfl
  | cons op ops ih =>
    obtain ⟨requests, reply, line', hperforms, -, hmakes⟩ :=
      exists_step client transport database line op
    obtain ⟨replies, later, last, hlater, hall⟩ := ih line' (log ++ requests)
    refine ⟨reply :: replies, requests ++ later, last, ?_, ?_⟩
    · simp only [Connection.performAll, hperforms.tells, hlater, List.append_assoc]
    · exact List.forall_mem_append.mpr ⟨hmakes, hall⟩

/-- **A line is closed after a session** exactly if it was before or one of the operations closes
it. -/
theorem closed_session_iff (ops : List Operation) (line : Line τ) :
    (session client transport database ops line).2.closed = true ↔
      line.closed = true ∨ .close ∈ ops := by
  induction ops generalizing line with
  | nil => simp [session]
  | cons op ops ih =>
    obtain ⟨requests, reply, line', hperforms, hstep, -⟩ :=
      exists_step client transport database line op
    simp only [session, hperforms.turn_eq]
    rw [ih, hstep.closed_iff, List.mem_cons, eq_comm (a := Operation.close),
      or_comm (a := op = .close), or_assoc]

/-- **A closed connection stays closed.** In every session on a new connection, whatever the
server answers: the connection is closed at the end exactly if an operation closes it, and closing
always succeeds. After that nothing is sent any more, and everything but closing and batches of
nothing fails, as on a connection that is closed. Before that something is sent exactly for the
operations that have something to send and parameters that fit it, so never with an array among
the parameters. And every turn that sends nothing can be left out, but for the first that closes,
without any difference to the others. -/
theorem closed_stays_closed (world : τ) (ops : List Operation) :
    let c := connection client transport database
    let run := fun ops => session client transport database ops ⟨false, world⟩
    c.performAll ops ⟨false, world⟩ = ((run ops).1.map (·.reply), (run ops).2) ∧
    (c.isClosed (run ops).2 = true ↔ .close ∈ ops) ∧
    ∀ before op after, ops = before ++ op :: after →
      ∃ earlier reply requests later last,
        run ops = (earlier ++ ⟨op, reply, requests⟩ :: later, last) ∧
        earlier.map (·.operation) = before ∧ later.map (·.operation) = after ∧
        (op = .close → requests = [] ∧ reply = .done (.ok ())) ∧
        (.close ∈ before → requests = [] ∧
          (reply.error? = some .closed ↔ op ≠ .close ∧ op ≠ .executeBatch [])) ∧
        (.close ∉ before → (requests ≠ [] ↔ Fits op) ∧
          ((∃ c ∈ op.params, IsArray c) →
            requests = [] ∧ reply.error? = some .arrayParameter)) ∧
        (requests = [] → op ≠ .close ∨ .close ∈ before →
          run (before ++ after) = (earlier ++ later, last)) := by
  intro c run
  refine ⟨performAll_eq_session client transport database ops _, ?_, ?_⟩
  · show (session client transport database ops ⟨false, world⟩).2.closed = true ↔ _
    rw [closed_session_iff]
    simp
  rintro before op after rfl
  have hbefore := map_operation_session client transport database before ⟨false, world⟩
  have hclosed := closed_session_iff client transport database before ⟨false, world⟩
  rcases hearlier : session client transport database before ⟨false, world⟩ with ⟨earlier, line⟩
  rw [hearlier] at hbefore hclosed
  obtain ⟨requests, reply, line', hperforms, hstep, -⟩ :=
    exists_step client transport database line op
  have hafter := map_operation_session client transport database after line'
  rcases hlater : session client transport database after line' with ⟨later, last⟩
  rw [hlater] at hafter
  have hiff : line.closed = true ↔ .close ∈ before := by simpa using hclosed
  refine ⟨earlier, reply, requests, later, last, ?_, hbefore, hafter, ?_, ?_, ?_, ?_⟩
  · show session client transport database _ _ = _
    rw [session_append, hearlier]
    simp only [session, hperforms.turn_eq, hlater]
  · rintro rfl
    exact hstep.reply_close
  · intro hmem
    exact hstep.of_closed (hiff.mpr hmem)
  · intro hmem
    have hopen : line.closed = false := by
      rw [Bool.eq_false_iff, Ne, hiff]
      exact hmem
    obtain ⟨hsent, harray⟩ := hstep.of_open hopen
    refine ⟨hsent, fun hitems => ⟨?_, harray hitems⟩⟩
    by_contra hne
    obtain ⟨c, hc, hcell⟩ := hitems
    exact (hsent.mp hne).no_array c hc hcell
  · intro hidle hclose
    obtain rfl := hstep.eq_of_idle hidle (hclose.imp_right hiff.mpr)
    show session client transport database _ _ = _
    rw [session_append, hearlier]
    simp only [hlater]

/-- A session that begins with an array among the parameters goes on as it does without it. -/
theorem closed_stays_closed_of_array :
    let rest : List Operation := [.execute "a" [], .close, .query "b" []]
    let run := fun ops => session {} silent "d" ops ⟨false, ()⟩
    (run rest).2.closed = true ∧ ∃ reply, reply.error? = some .arrayParameter ∧
      run (.execute "SELECT ?" [.array []] :: rest) =
        (⟨.execute "SELECT ?" [.array []], reply, []⟩ :: (run rest).1, (run rest).2) := by
  intro rest run
  have harray : ∃ c ∈ [Cell.array []], IsArray c := ⟨_, List.mem_cons_self .., [], rfl⟩
  obtain ⟨-, hclosed, -⟩ := closed_stays_closed {} silent "d" () rest
  obtain ⟨-, -, hturn⟩ :=
    closed_stays_closed {} silent "d" () (.execute "SELECT ?" [.array []] :: rest)
  obtain ⟨earlier, reply, requests, later, last, hrun, hearlier, -, -, -, hopen, hidle⟩ :=
    hturn [] _ _ rfl
  obtain rfl := List.map_eq_nil_iff.mp hearlier
  obtain ⟨rfl, herror⟩ := (hopen (List.not_mem_nil)).2 harray
  have hwithout : run rest = (later, last) := hidle rfl (Or.inl (by simp))
  refine ⟨hclosed.mpr (by simp [rest]), reply, herror, ?_⟩
  rw [hwithout]
  exact hrun

/-- An array, a statement, closing, a query, a batch of nothing and closing again. -/
example :
    (session {} silent "d" [.execute "SELECT ?" [.array []], .execute "a" [], .close,
        .query "b" [], .executeBatch [], .close] ⟨false, ()⟩).1.map
      (fun t => (t.requests.map (·.sql), t.reply.error?)) =
    [([], some .arrayParameter), (["a"], none), ([], none), ([], some .closed), ([], none),
      ([], none)] := by
  decide

end

end ClickHouse

end SqlDialect
