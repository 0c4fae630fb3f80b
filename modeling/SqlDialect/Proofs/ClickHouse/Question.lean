import SqlDialect.ClickHouse.Catalog
import SqlDialect.Connection.Scripted
import SqlDialect.Proofs.Connection.Plan
import SqlDialect.Proofs.ResultSet
/-!
# Questions to the catalog

A `Question` is one of the operations on the catalog with its arguments. Asking it
carries out a plan that depends on the database of the connection and on the replies
and on nothing else (`Question.ask_eq_run`).

* `Question.ask_fails_iff`: which questions can fail, exactly when they do, and with
  which error; no question sends anything but queries, and few of them.
* `Question.ask_sends`: the names in a question never come into the text of a query.
  They are its parameters, behind the database, one for each question mark.
-/

namespace SqlDialect.ClickHouse.Catalog

/-- What can be asked of the catalog. -/
inductive Question
  | server
  | defaultDatabase
  | databases
  | schemas
  | tables (names : List String)
  | columns (names : List String)
  | primaryKey (table : String)
  | indexes (table : String)
  | definition (table : String) (drop : Bool)

namespace Question

variable {σ τ : Type}

def Answer : Question → Type
  | server => Server
  | defaultDatabase => String
  | databases | schemas => List String
  | tables _ => List Table
  | columns _ => List Column
  | primaryKey _ => Option String
  | indexes _ => List Index
  | definition .. => String

def ask (c : Connection σ) : (q : Question) → Action σ q.Answer
  | server => Catalog.server c
  | defaultDatabase => pure Catalog.defaultDatabase
  | databases => Catalog.databases c
  | schemas => Catalog.schemas c
  | tables names => Catalog.tables c names
  | columns names => Catalog.columns c names
  | primaryKey table => Catalog.primaryKey c table
  | indexes table => Catalog.indexes c table
  | definition table drop => Catalog.tableDefinition c table drop

/-! ### Plans -/

def serverOf : Except DbError ResultSet → Server
  | .error _ => .unknown engine
  | .ok result =>
    match result.rows.head?.bind versionOf? with
    | some version => ⟨engine, version⟩
    | none => .unknown engine

def indexesOf : Except DbError ResultSet → List Index
  | .error _ => []
  | .ok result =>
    match result.rows.mapM indexOf with
    | .ok found => found
    | .error _ => []

def databasesPlan : Plan (List String) :=
  .query databasesQuery [] fun result =>
    .done ((result.rows.mapM fun r : Row => r.decodeString "name").map userDatabases)

/-- The plan that reads the columns of a table and makes something of them. -/
def columnsPlan {α : Type} (database table : String) (f : List Column → α) : Plan α :=
  .query columnsQuery [.string database, .string table] fun result =>
    .done ((result.rows.mapM (columnOf table)).map f)

/-- What is sent for a question, and what comes of the replies. -/
def plan (database : String) : (q : Question) → Plan q.Answer
  | server => .ask versionQuery [] fun reply => .done (.ok (serverOf reply))
  | defaultDatabase => .done (.ok Catalog.defaultDatabase)
  | databases | schemas => databasesPlan
  | tables names =>
    .query (tablesQuery names.length) (.string database :: names.map Cell.string) fun result =>
      .done (result.rows.mapM tableOf)
  | columns [] => .done (.ok [])
  | columns (table :: _) => columnsPlan database table id
  | primaryKey table =>
    .query primaryKeyQuery [.string database, .string table] fun result =>
      match declaredKey? result with
      | .error e => .done (.error e)
      | .ok (some key) => .done (.ok (some key))
      | .ok none => columnsPlan database table fun cs => cs.head?.map (·.columnName)
  | indexes table =>
    .ask indexesQuery [.string database, .string table] fun reply => .done (.ok (indexesOf reply))
  | definition table drop =>
    .query definitionQuery [.string database, .string table] fun result =>
      .done ((definitionOf result).map fun ddl =>
        if drop && ddl != "" then dropTable table ++ ";\n" ++ ddl else ddl)

/-- A plan of one query, whose answer is read and then made something of. -/
theorem run_query_map {α β : Type} (c : Connection σ) (sql : String) (params : List Cell)
    (read : ResultSet → Except DbError α) (f : α → β) :
    (Plan.query sql params fun result => .done ((read result).map f)).run c = (do
      let result ← c.query sql params
      let a ← Action.ofExcept (read result)
      return f a) := by
  rw [Plan.run_query]
  exact bind_congr fun result => (Action.ofExcept_bind_pure (read result) f).symm

/-- A plan of one query, whatever the reply. -/
theorem run_ask {α : Type} (c : Connection σ) (sql : String) (params : List Cell)
    (f : Except DbError ResultSet → α) :
    (Plan.ask sql params fun reply => .done (.ok (f reply))).run c = (do
      let reply ← (c.query sql params).settled
      return f reply) := rfl

theorem columns_eq_run {α : Type} (c : Connection σ) (table : String) (names : List String)
    (f : List Column → α) :
    (columnsPlan c.database table f).run c = (do
      let cs ← Catalog.columns c (table :: names)
      return f cs) := by
  rw [columnsPlan, run_query_map, Catalog.columns, bind_assoc]

theorem primaryKey_eq_run (c : Connection σ) (table : String) :
    Catalog.primaryKey c table = ((primaryKey table).plan c.database).run c := by
  rw [plan, Plan.run_query, Catalog.primaryKey]
  refine bind_congr fun result => ?_
  cases declaredKey? result with
  | error e => rfl
  | ok key =>
    cases key with
    | some key => rfl
    | none => exact (columns_eq_run c table [] _).symm

/-- **Asking carries out the plan**, on every connection. -/
theorem ask_eq_run (q : Question) (c : Connection σ) : q.ask c = (q.plan c.database).run c := by
  cases q with
  | server =>
    refine Eq.trans ?_ (run_ask c versionQuery [] serverOf).symm
    refine bind_congr fun reply => ?_
    cases reply with
    | error e => rfl
    | ok result =>
      show (match result.rows.head?.bind versionOf? with
        | some version => pure ⟨engine, version⟩
        | none => pure (.unknown engine)) = (pure (serverOf (.ok result)) : Action σ Server)
      rw [serverOf]
      cases result.rows.head?.bind versionOf? <;> rfl
  | defaultDatabase => rfl
  | databases => exact (run_query_map c databasesQuery [] _ userDatabases).symm
  | schemas => exact (run_query_map c databasesQuery [] _ userDatabases).symm
  | tables names =>
    exact (Plan.run_query c (tablesQuery names.length) _ fun result =>
      .done (result.rows.mapM tableOf)).symm
  | columns names =>
    cases names with
    | nil => rfl
    | cons table names => exact ((columns_eq_run c table names id).trans (bind_pure _)).symm
  | primaryKey table => exact primaryKey_eq_run c table
  | indexes table =>
    refine Eq.trans ?_ (run_ask c indexesQuery _ indexesOf).symm
    refine bind_congr fun reply => ?_
    cases reply with
    | error e => rfl
    | ok result =>
      show (match result.rows.mapM indexOf with
        | .ok found => pure found
        | .error _ => pure []) = (pure (indexesOf (.ok result)) : Action σ (List Index))
      rw [indexesOf]
      cases result.rows.mapM indexOf <;> rfl
  | definition table drop => exact (run_query_map c _ _ _ _).symm

/-- What passes over a connection while a question is asked is a path of its plan. -/
theorem exists_talks (q : Question) (c : Connection σ) (s : σ) :
    ∃ es r s', Action.Talks (q.ask c) (q.ask c.traced) s es r s' ∧
      (q.plan c.database).Path es r := by
  obtain ⟨es, r, s', htalks, hpath⟩ := (q.plan c.database).exists_path c s
  refine ⟨es, r, s', ?_, hpath⟩
  rw [ask_eq_run, ask_eq_run]
  exact htalks

/-! ### What questions send -/

def names : Question → List String
  | tables names => names
  | columns names => names.take 1
  | primaryKey table | indexes table | definition table _ => [table]
  | server | defaultDatabase | databases | schemas => []

/-- The parameters of a query are the database and these names, or none, and there is
one for each question mark of the text. -/
def Binds (database : String) (names : List String) (sql : String) (params : List Cell) : Prop :=
  sql.toList.count '?' = params.length ∧
    (params = [] ∨ params = .string database :: names.map Cell.string)

theorem binds_nothing {database : String} {names : List String} {sql : String}
    (hsql : sql.toList.count '?' = 0) : Binds database names sql [] := ⟨hsql, .inl rfl⟩

theorem binds_table {sql : String} (hsql : sql.toList.count '?' = 2) (database table : String) :
    Binds database [table] sql [.string database, .string table] := ⟨hsql, .inr rfl⟩

theorem count_placeholders (n : Nat) :
    (", ".intercalate (List.replicate n "?")).toList.count '?' = n := by
  have hfixed : ", ".toList = [',', ' '] ∧ "?".toList = ['?'] := by decide
  rw [String.toList_intercalate, List.map_replicate, hfixed.1, hfixed.2]
  induction n with
  | zero => rfl
  | succ n ih =>
    cases n with
    | zero => rfl
    | succ n =>
      rw [List.replicate_succ] at ih
      rw [List.replicate_succ, List.replicate_succ, List.intercalate_cons_cons, List.count_append,
        List.count_append, ih]
      show 1 + 0 + (n + 1) = _
      omega

/-- One question mark for the database and one for each name. -/
theorem count_tablesQuery (n : Nat) : (tablesQuery n).toList.count '?' = n + 1 := by
  have hall : (tablesQuery 0).toList.count '?' = 1 := by decide +kernel
  have hopening : " AND name IN (".toList.count '?' = 0 := by decide
  have hclosing : ")".toList.count '?' = 0 := by decide
  have hempty : "".toList.count '?' = 0 := rfl
  by_cases hn : n = 0
  · subst hn
    exact hall
  · unfold tablesQuery at hall ⊢
    rw [if_pos rfl] at hall
    rw [if_neg hn]
    simp only [String.toList_append, List.count_append, hempty] at hall
    simp only [String.toList_append, List.count_append, hopening, hclosing, count_placeholders]
    omega

theorem plan_asks (database : String) (q : Question) :
    (q.plan database).Asks (Binds database q.names) := by
  have hcolumns {α : Type} (table : String) (f : List Column → α) :
      (columnsPlan database table f).Asks (Binds database [table]) :=
    .query (binds_table (by decide +kernel) database table) fun _ => trivial
  have hdatabases : databasesPlan.Asks (Binds database []) :=
    .query (binds_nothing (by decide +kernel)) fun _ => trivial
  cases q with
  | server => exact ⟨binds_nothing (by decide +kernel), fun _ => trivial⟩
  | defaultDatabase => trivial
  | databases => exact hdatabases
  | schemas => exact hdatabases
  | tables names =>
    refine .query ⟨?_, .inr rfl⟩ fun _ => trivial
    rw [count_tablesQuery, List.length_cons, List.length_map]
  | columns names =>
    cases names with
    | nil => trivial
    | cons table names => exact hcolumns table id
  | primaryKey table =>
    refine .query (binds_table (by decide +kernel) database table) fun result => ?_
    cases declaredKey? result with
    | error e => trivial
    | ok key =>
      cases key with
      | some key => trivial
      | none => exact hcolumns table _
  | indexes table => exact ⟨binds_table (by decide +kernel) database table, fun _ => trivial⟩
  | definition table drop =>
    exact .query (binds_table (by decide +kernel) database table) fun _ => trivial

/-- How many queries a question takes at most. -/
def limit : Question → Nat
  | defaultDatabase | columns [] => 0
  | primaryKey _ => 2
  | _ => 1

theorem plan_within (database : String) (q : Question) : (q.plan database).Within q.limit := by
  cases q with
  | server => exact fun _ => trivial
  | defaultDatabase => trivial
  | databases => exact .query fun _ => trivial
  | schemas => exact .query fun _ => trivial
  | tables names => exact .query fun _ => trivial
  | columns names =>
    cases names with
    | nil => trivial
    | cons table names => exact .query fun _ => trivial
  | primaryKey table =>
    refine .query fun result => ?_
    cases declaredKey? result with
    | error e => trivial
    | ok key =>
      cases key with
      | some key => trivial
      | none => exact .query fun _ => trivial
  | indexes table => exact fun _ => trivial
  | definition table drop => exact .query fun _ => trivial

/-! ### Which questions fail -/

/-- What a row that describes a table has to hold. -/
def tableFields : List Field :=
  [⟨"name", .text⟩, ⟨"comment", .optionalText⟩, ⟨"engine", .optionalText⟩, ⟨"total_rows", .count⟩,
    ⟨"total_bytes", .count⟩]

/-- What a row that describes a column has to hold. -/
def columnFields : List Field :=
  [⟨"name", .text⟩, ⟨"type", .text⟩, ⟨"comment", .optionalText⟩, ⟨"is_in_primary_key", .flag⟩,
    ⟨"default_expression", .optionalText⟩]

section

open Row

theorem tableOf_eq_error_iff (r : Row) (e : DbError) :
    tableOf r = .error e ↔ tableFields.findSome? (·.fault? r) = some e := by
  unfold tableOf tableFields
  refine bind_eq_error_iff (fun _ => decodeString_eq_error_iff) fun _ _ => ?_
  refine bind_eq_error_iff (fun _ => decodeString?_eq_error_iff) fun _ _ => ?_
  refine bind_eq_error_iff (fun _ => decodeString?_eq_error_iff) fun _ _ => ?_
  refine bind_eq_error_iff (fun _ => decodeCount?_eq_error_iff) fun _ _ => ?_
  exact bind_eq_error_iff (fun _ => decodeCount?_eq_error_iff) fun _ _ => pure_eq_error_iff

theorem columnOf_eq_error_iff (table : String) (r : Row) (e : DbError) :
    columnOf table r = .error e ↔ columnFields.findSome? (·.fault? r) = some e := by
  unfold columnOf columnFields
  refine bind_eq_error_iff (fun _ => decodeString_eq_error_iff) fun _ _ => ?_
  refine bind_eq_error_iff (fun _ => decodeString_eq_error_iff) fun _ _ => ?_
  refine bind_eq_error_iff (fun _ => decodeString?_eq_error_iff) fun _ _ => ?_
  refine bind_eq_error_iff (fun _ => decodeFlag_eq_error_iff) fun _ _ => ?_
  exact bind_eq_error_iff (fun _ => decodeString?_eq_error_iff) fun _ _ => pure_eq_error_iff

end

/-- What the answers to a question are read for, in the order of the queries. -/
def readings : Question → List Reading
  | databases | schemas => [⟨[⟨"name", .text⟩], false⟩]
  | tables _ => [⟨tableFields, false⟩]
  | columns _ => [⟨columnFields, false⟩]
  | primaryKey _ => [⟨[⟨"primary_key", .optionalText⟩], true⟩, ⟨columnFields, false⟩]
  | definition .. => [⟨[⟨"create_table_query", .optionalText⟩], true⟩]
  | server | defaultDatabase | indexes _ => []

/-- The questions that are answered even if their query fails. -/
def neverFails : Question → Bool
  | server | defaultDatabase | indexes _ => true
  | _ => false

theorem nameOf_eq_error_iff (r : Row) (e : DbError) :
    r.decodeString "name" = .error e ↔ [Field.mk "name" .text].findSome? (·.fault? r) = some e := by
  rw [List.findSome?_singleton]
  exact Row.decodeString_eq_error_iff

theorem declaredKey?_eq_error_iff (result : ResultSet) (e : DbError) :
    declaredKey? result = .error e ↔
      (Reading.mk [⟨"primary_key", .optionalText⟩] true).fault? result = some e := by
  refine head?_eq_error_iff (fun e => nofun) fun r e => ?_
  rw [map_eq_error_iff, List.findSome?_singleton]
  exact Row.decodeString?_eq_error_iff

theorem definitionOf_eq_error_iff (result : ResultSet) (e : DbError) :
    definitionOf result = .error e ↔
      (Reading.mk [⟨"create_table_query", .optionalText⟩] true).fault? result = some e := by
  refine head?_eq_error_iff (fun e => nofun) fun r e => ?_
  rw [map_eq_error_iff, List.findSome?_singleton]
  exact Row.decodeString?_eq_error_iff

theorem columnsPlan_fails {α : Type} (database table : String) (f : List Column → α) :
    (columnsPlan database table f).Fails [⟨columnFields, false⟩] :=
  Plan.fails_query fun _ _ =>
    map_eq_error_iff.trans (mapM_rows_eq_error_iff (columnOf_eq_error_iff table))

/-- The fault of the first answer ends the question; otherwise it may go on. -/
theorem primaryKey_fails (database table : String) :
    ((primaryKey table).plan database).Fails (primaryKey table).readings := by
  refine .query (fun result e he => ?_) fun result hnone => ?_
  · rw [(declaredKey?_eq_error_iff result e).mpr he]
  · cases hkey : declaredKey? result with
    | error e =>
      rw [(declaredKey?_eq_error_iff result e).mp hkey] at hnone
      cases hnone
    | ok key =>
      cases key with
      | some key => exact Plan.fails_done _ _
      | none => exact columnsPlan_fails database table _

theorem plan_fails (database : String) {q : Question} (hq : q.neverFails = false) :
    (q.plan database).Fails q.readings := by
  cases q with
  | server => cases hq
  | defaultDatabase => cases hq
  | indexes table => cases hq
  | databases =>
    exact Plan.fails_query fun _ _ =>
      map_eq_error_iff.trans (mapM_rows_eq_error_iff nameOf_eq_error_iff)
  | schemas =>
    exact Plan.fails_query fun _ _ =>
      map_eq_error_iff.trans (mapM_rows_eq_error_iff nameOf_eq_error_iff)
  | tables names => exact Plan.fails_query fun _ _ => mapM_rows_eq_error_iff tableOf_eq_error_iff
  | columns names =>
    cases names with
    | nil => exact Plan.fails_done _ _
    | cons table names => exact columnsPlan_fails database table id
  | primaryKey table => exact primaryKey_fails database table
  | definition table drop =>
    exact Plan.fails_query fun result e =>
      map_eq_error_iff.trans (definitionOf_eq_error_iff result e)

theorem ok_of_neverFails {database : String} {q : Question} (hq : q.neverFails = true)
    {es : List Exchange} {r : Except DbError q.Answer} (h : (q.plan database).Path es r) :
    ∃ a, r = .ok a := by
  cases q with
  | defaultDatabase => exact ⟨_, (Plan.path_done_iff.mp h).2⟩
  | server =>
    obtain ⟨reply, rest, -, h⟩ := Plan.path_ask_iff.mp h
    exact ⟨_, (Plan.path_done_iff.mp h).2⟩
  | indexes table =>
    obtain ⟨reply, rest, -, h⟩ := Plan.path_ask_iff.mp h
    exact ⟨_, (Plan.path_done_iff.mp h).2⟩
  | _ => cases hq

/-- The first fault in the answers to a question. -/
def fault? (q : Question) (es : List Exchange) : Option DbError := firstFault? q.readings es

/-- **Which questions fail, and with what.** Asking does the same on a connection and on
the one that records it. Nothing but queries is sent, and not more than the question
takes. Some questions are always answered. All others fail exactly if a query fails,
with its error, or if a row that is needed does not decode, with the fault of its first
field that has one. -/
theorem ask_fails_iff (q : Question) (c : Connection σ) (s : σ) :
    ∃ es r s', q.ask c s = (r, s') ∧ q.ask c.traced ([], s) = (r, (es, s')) ∧
      (∀ x ∈ es, ∃ sql params reply, x = .query sql params reply) ∧ es.length ≤ q.limit ∧
      if q.neverFails then ∃ a, r = .ok a
      else ∀ e, r = .error e ↔ Refused e es ∨ q.fault? es = some e := by
  obtain ⟨es, r, s', htalks, hpath⟩ := (q.plan c.database).exists_path c s
  refine ⟨es, r, s', ?_, ?_, ?_, (plan_within c.database q).of_path hpath, ?_⟩
  · rw [ask_eq_run]
    exact htalks.ends
  · rw [ask_eq_run]
    exact htalks.tells []
  · intro x hx
    obtain ⟨sql, params, reply, hquery, -⟩ := (plan_asks c.database q).of_path hpath x hx
    exact ⟨sql, params, reply, hquery⟩
  · split
    · rename_i hq
      exact ok_of_neverFails hq hpath
    · rename_i hq
      exact plan_fails c.database (Bool.eq_false_iff.mpr hq) es r hpath

/-! ### Questions that differ in names -/

/-- The question with all names blotted out. -/
def blank : Question → Question
  | tables names => tables (names.map fun _ => "")
  | columns names => columns (names.map fun _ => "")
  | primaryKey _ => primaryKey ""
  | indexes _ => indexes ""
  | definition _ drop => definition "" drop
  | server => server
  | defaultDatabase => defaultDatabase
  | databases => databases
  | schemas => schemas

theorem similar_blank (database database' : String) (q : Question) :
    (q.plan database).Similar (q.blank.plan database') := by
  have hcolumns {α : Type} (table : String) (f : List Column → α) :
      (columnsPlan database table f).Similar (columnsPlan database' "" f) :=
    .query _ _ _ fun _ => .done _ _
  cases q with
  | server => exact .ask _ _ _ fun _ => .done _ _
  | defaultDatabase => exact .done _ _
  | databases => exact .query _ _ _ fun _ => .done _ _
  | schemas => exact .query _ _ _ fun _ => .done _ _
  | tables names =>
    rw [blank, plan, plan, List.length_map]
    exact .query _ _ _ fun _ => .done _ _
  | columns names =>
    cases names with
    | nil => exact .done _ _
    | cons table names => exact hcolumns table id
  | primaryKey table =>
    refine .query _ _ _ fun result => ?_
    cases declaredKey? result with
    | error e => exact .done _ _
    | ok key =>
      cases key with
      | some key => exact .done _ _
      | none => exact hcolumns table _
  | indexes table => exact .ask _ _ _ fun _ => .done _ _
  | definition table drop => exact .query _ _ _ fun _ => .done _ _

/-- What passes over a connection while a question is asked. -/
def exchanges (q : Question) (c : Connection σ) (s : σ) : List Exchange :=
  (q.ask c.traced ([], s)).2.1

theorem path_exchanges (q : Question) (c : Connection σ) (s : σ) :
    ∃ r, (q.plan c.database).Path (q.exchanges c s) r := by
  obtain ⟨es, r, s', htalks, hpath⟩ := (q.plan c.database).exists_path c s
  have hes : q.exchanges c s = es := by
    rw [exchanges, ask_eq_run]
    exact congrArg (·.2.1) (htalks.tells [])
  exact ⟨r, hes ▸ hpath⟩

/-- **Names are bound and never written.** In every query there is a parameter for each
question mark, and the parameters are the database and the names of the question. Of two
questions that differ in the content of names the texts are the same as long as the
replies are: the next text depends on the replies before it alone. So where all replies
are the same, all texts are. -/
theorem ask_sends {q q' : Question} (hblank : q.blank = q'.blank) (c : Connection σ) (s : σ)
    (c' : Connection τ) (s' : τ) :
    (∀ x ∈ q.exchanges c s, ∃ sql params reply, x = .query sql params reply ∧
      Binds c.database q.names sql params) ∧
    (∀ n, AnsweredAlike ((q.exchanges c s).take n) ((q'.exchanges c' s').take n) →
      ((q.exchanges c s).take (n + 1)).map Exchange.text =
        ((q'.exchanges c' s').take (n + 1)).map Exchange.text) ∧
    (AnsweredAlike (q.exchanges c s) (q'.exchanges c' s') →
      (q.exchanges c s).map Exchange.text = (q'.exchanges c' s').map Exchange.text) := by
  obtain ⟨r, hpath⟩ := path_exchanges q c s
  obtain ⟨r', hpath'⟩ := path_exchanges q' c' s'
  have hsimilar : (q.plan c.database).Similar (q'.plan c'.database) := by
    have hleft := similar_blank c.database c'.database q
    rw [hblank] at hleft
    exact hleft.trans (similar_blank c'.database c'.database q').symm
  refine ⟨(plan_asks c.database q).of_path hpath, fun n => hsimilar.texts_eq hpath hpath', ?_⟩
  intro halike
  have hall := @Plan.Similar.texts_eq _ _ _ _ hsimilar _ _ _ _ hpath hpath'
    ((q.exchanges c s).length + (q'.exchanges c' s').length)
  rw [List.take_of_length_le (by omega), List.take_of_length_le (by omega),
    List.take_of_length_le (by omega), List.take_of_length_le (by omega)] at hall
  exact hall halike

/-- Two queries each, on a connection that answers with no rows; one of the names is a
question mark. -/
theorem ask_sends_of_mark :
    (primaryKey "?").blank = (primaryKey "t").blank ∧
      ((primaryKey "?").exchanges ({} : Script).connection false).length = 2 ∧
      ((primaryKey "?").exchanges ({} : Script).connection false).map Exchange.text =
        ((primaryKey "t").exchanges ({} : Script).connection false).map Exchange.text := by
  have htwo (table : String) : (primaryKey table).exchanges ({} : Script).connection false =
      [.query primaryKeyQuery [.string "default", .string table] (.ok {}),
        .query columnsQuery [.string "default", .string table] (.ok {})] := rfl
  have hblank : (primaryKey "?").blank = (primaryKey "t").blank := rfl
  obtain ⟨-, -, htexts⟩ :=
    ask_sends hblank ({} : Script).connection false ({} : Script).connection false
  refine ⟨hblank, by rw [htwo]; rfl, htexts ?_⟩
  rw [htwo, htwo]
  exact List.forall_mem_cons.mpr ⟨rfl, List.forall_mem_singleton.mpr rfl⟩

end Question

/-- A catalog that holds one text in one column. -/
def holding (column text : String) : Connection Bool :=
  Script.connection { responses := [(column, .ofRows [column] [[.string text]])] }

end SqlDialect.ClickHouse.Catalog
