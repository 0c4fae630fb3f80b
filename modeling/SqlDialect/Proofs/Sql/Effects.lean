import SqlDialect.Sql.Script
/-!
# What a statement may write

The form of a statement does not say all that it writes. The body of a query may be an `INSERT` or
an `UPDATE`, a selection may go `INTO` a table, and either may stand at any depth: in a common
table, in a source of rows, between the parentheses of an expression. A plan that is made with
`ANALYZE` runs its statement.

`Part.parts` gives what lies right below a part of a statement. What a part can write
(`Part.Writes`) is what it changes by itself and what the parts below it can write; since these are
smaller, going through all of them decides it (`Part.writes_iff`). On statements this becomes
`Statement.writes_iff`: a statement writes by its form, or it conceals that it writes.
-/

namespace SqlDialect.Sql

/-! ### The parts of a tree -/

/-- A part of a statement: one of the trees that contain each other. -/
inductive Part
  | expr (e : Expr)
  | query (q : Query)
  | body (b : Body)
  | source (s : Source)

def exprs (es : List Expr) : List Part := es.map .expr

def sources (ss : List Source) : List Part := ss.map .source

def Cte.query : Cte → Query
  | .mk _ q _ => q

/-- The parts right below an expression. -/
def Expr.parts : Expr → List Part
  | .ident _ | .compound _ | .constant _ | .typed .. | .introduced .. | .fullText ..
  | .bareCall _ => []
  | .interval e _ | .unary _ e | .factorial e | .isTest e .. | .cast _ e _ | .convert _ e _ _
  | .extract _ _ e | .rounded _ e _ | .collate e _ | .followed e _ | .overNamed e _
  | .definedWindow _ _ e | .nested e | .access e _ | .named _ _ e | .aliased e _
  | .sorted e _ => exprs [e]
  | .binary l _ r | .quantified l _ _ r | .isDistinct l _ r | .inUnnest l _ r | .pattern l _ _ r _
  | .position l r | .atTimeZone l r | .over l r | .subscript l r => exprs [l, r]
  | .between e _ low high => exprs [e, low, high]
  | .inList e _ es | .withinGroup e es | .filled e es => exprs (e :: es)
  | .inQuery e _ q => [.expr e, .query q]
  | .case operand conditions results otherwise =>
    exprs (operand.toList ++ conditions ++ results ++ otherwise.toList)
  | .substring e start count _ => exprs (e :: start.toList ++ count.toList)
  | .overlay e what start count => exprs (e :: what :: start :: count.toList)
  | .trim _ what e characters => exprs (what.toList ++ e :: characters)
  | .call _ _ args phrases => exprs (args ++ phrases)
  | .parametric f _ args phrases => exprs (f :: args ++ phrases)
  | .queryCall _ q | .subquery q | .exists _ q => [.query q]
  | .window _ partition order extent => exprs (partition ++ order ++ extent.toList)
  | .frame _ start finish => exprs (start :: finish.toList)
  | .bound e _ => exprs e.toList
  | .tuple es | .array _ es | .record _ es | .wildcard _ es | .phrase _ es => exprs es
  | .dictionary _ keys values => exprs (keys ++ values)
  | .slice e lower upper stride => exprs (e :: lower.toList ++ upper.toList ++ stride.toList)
  | .grouping _ sets => exprs sets.flatten

def Query.parts : Query → List Part
  | .mk _ ctes body order interpolate limit offset _ limitBy _ _ _ _ =>
    ctes.map (.query ·.query) ++ .body body ::
      exprs (order ++ interpolate.toList ++ limit.toList ++ offset.toList ++ limitBy)

def Body.parts : Body → List Part
  | .select _ on top items _ source views prewhere condition _ group _ cluster distribute sort
      having windows =>
    exprs (on.toList.flatten ++ top.toList ++ items ++ views ++ prewhere.toList ++
      condition.toList ++ group ++ cluster ++ distribute ++ sort ++ having.toList ++ windows) ++
      sources source
  | .query q | .toFiles _ q => [.query q]
  | .values _ rows => exprs rows.flatten
  | .table _ => []
  | .combined l _ _ r => [.body l, .body r]
  | .insert _ _ _ partition q phrases => q.toList.map .query ++ exprs (partition ++ phrases)
  | .update target assignments source condition returning =>
    sources (target :: source.toList) ++ exprs (assignments ++ condition.toList ++ returning)

/-- The parts right below a source of rows. -/
def Source.parts : Source → List Part
  | .table _ _ args _ _ hints => exprs (args.toList.flatten ++ hints)
  | .lateralCall _ es _ | .unnest es .. => exprs es
  | .expression e _ => exprs [e]
  | .derived _ q _ => [.query q]
  | .nested s _ => sources [s]
  | .pivoted s _ phrases _ => .source s :: exprs phrases
  | .joined l _ r nearest on _ => sources [l, r] ++ exprs (nearest.toList ++ on.toList)

def Part.parts : Part → List Part
  | .expr e => e.parts
  | .query q => q.parts
  | .body b => b.parts
  | .source s => s.parts

theorem mem_exprs {p : Part} {es : List Expr} : p ∈ exprs es ↔ ∃ e ∈ es, p = .expr e := by
  simp [exprs, eq_comm]

theorem mem_sources {p : Part} {ss : List Source} :
    p ∈ sources ss ↔ ∃ s ∈ ss, p = .source s := by
  simp [sources, eq_comm]

/-! ### A part is smaller than what it is a part of -/

theorem sizeOf_lt_of_mem_toList {α : Type} [SizeOf α] {a : α} {o : Option α} (h : a ∈ o.toList) :
    sizeOf a < sizeOf o := by
  cases o with
  | none => cases h
  | some b =>
    cases List.mem_singleton.mp h
    simp

theorem sizeOf_lt_of_mem_flatten {α : Type} [SizeOf α] {a : α} {ls : List (List α)}
    (h : a ∈ ls.flatten) : sizeOf a < sizeOf ls := by
  obtain ⟨l, hl, ha⟩ := List.mem_flatten.mp h
  exact Nat.lt_trans (List.sizeOf_lt_of_mem ha) (List.sizeOf_lt_of_mem hl)

theorem sizeOf_lt_of_mem_toList_flatten {α : Type} [SizeOf α] {a : α} {o : Option (List α)}
    (h : a ∈ o.toList.flatten) : sizeOf a < sizeOf o := by
  obtain ⟨l, hl, ha⟩ := List.mem_flatten.mp h
  exact Nat.lt_trans (List.sizeOf_lt_of_mem ha) (sizeOf_lt_of_mem_toList hl)

theorem Expr.sizeOf_lt_of_mem_parts {e : Expr} {q : Part} (h : q ∈ e.parts) :
    sizeOf q < 1 + sizeOf e := by
  cases e <;> simp only [parts, mem_exprs, List.mem_cons, List.mem_append,
    List.not_mem_nil, or_false, List.cons_append] at h
  case inQuery => rcases h with rfl | rfl <;> simp +arith
  case queryCall | subquery | «exists» => subst h; simp +arith
  all_goals
    obtain ⟨e, h, rfl⟩ := h
    simp
    grind [→ List.sizeOf_lt_of_mem, → sizeOf_lt_of_mem_toList, → sizeOf_lt_of_mem_flatten]

theorem Query.sizeOf_lt_of_mem_parts {q : Query} {p : Part} (h : p ∈ q.parts) :
    sizeOf p < 1 + sizeOf q := by
  cases q with
  | mk recursive ctes body order interpolate limit offset offsetRows limitBy settings fetch locks
      format =>
    simp only [parts, mem_exprs, List.mem_cons, List.mem_append, List.mem_map] at h
    rcases h with ⟨⟨name, q, source⟩, h, rfl⟩ | rfl | ⟨e, h, rfl⟩
    · have := List.sizeOf_lt_of_mem h
      simp [Cte.query] at this ⊢
      omega
    · simp
      omega
    · simp
      grind [→ List.sizeOf_lt_of_mem, → sizeOf_lt_of_mem_toList]

theorem Body.sizeOf_lt_of_mem_parts {b : Body} {p : Part} (h : p ∈ b.parts) :
    sizeOf p < 1 + sizeOf b := by
  cases b <;> simp only [parts, mem_exprs, mem_sources, List.mem_cons, List.mem_append,
    List.not_mem_nil, or_false, List.mem_map] at h
  case select =>
    rcases h with ⟨e, h, rfl⟩ | ⟨s, h, rfl⟩
    · simp
      rcases h with ((((((((((h | h) | h) | h) | h) | h) | h) | h) | h) | h) | h) | h <;>
        grind [→ List.sizeOf_lt_of_mem, → sizeOf_lt_of_mem_toList,
          → sizeOf_lt_of_mem_toList_flatten]
    · simp
      grind [→ List.sizeOf_lt_of_mem]
  case query | toFiles => subst h; simp; try omega
  case values =>
    obtain ⟨e, h, rfl⟩ := h
    simp
    grind [→ sizeOf_lt_of_mem_flatten]
  case combined => rcases h with rfl | rfl <;> simp +arith
  case insert =>
    rcases h with ⟨q, h, rfl⟩ | ⟨e, h, rfl⟩
    · simp
      grind [→ sizeOf_lt_of_mem_toList]
    · simp
      grind [→ List.sizeOf_lt_of_mem]
  case update =>
    rcases h with ⟨s, h, rfl⟩ | ⟨e, h, rfl⟩
    · simp
      grind [→ List.sizeOf_lt_of_mem, → sizeOf_lt_of_mem_toList]
    · simp
      grind [→ List.sizeOf_lt_of_mem, → sizeOf_lt_of_mem_toList]

theorem Source.sizeOf_lt_of_mem_parts {s : Source} {p : Part} (h : p ∈ s.parts) :
    sizeOf p < 1 + sizeOf s := by
  cases s <;> simp only [parts, mem_exprs, mem_sources, List.mem_cons, List.mem_append,
    List.not_mem_nil, or_false] at h
  case derived => subst h; simp; omega
  case pivoted =>
    rcases h with rfl | ⟨e, h, rfl⟩
    · simp
      omega
    · simp
      grind [→ List.sizeOf_lt_of_mem]
  case joined =>
    rcases h with ⟨s, h, rfl⟩ | ⟨e, h, rfl⟩
    · simp
      grind
    · simp
      grind [→ sizeOf_lt_of_mem_toList]
  all_goals
    obtain ⟨e, h, rfl⟩ := h
    simp
    grind [→ List.sizeOf_lt_of_mem, → sizeOf_lt_of_mem_toList_flatten]

/-- A part is smaller than what it is a part of, so that going down through parts ends. -/
theorem Part.sizeOf_lt_of_mem_parts {p q : Part} (h : q ∈ p.parts) : sizeOf q < sizeOf p := by
  cases p with
  | expr e => simpa using e.sizeOf_lt_of_mem_parts h
  | query r => simpa using r.sizeOf_lt_of_mem_parts h
  | body b => simpa using b.sizeOf_lt_of_mem_parts h
  | source s => simpa using s.sizeOf_lt_of_mem_parts h

/-! ### What a part writes -/

/-- A body that changes stored rows, makes a table of its rows or writes them to files. -/
def Body.changes : Body → Bool
  | .select _ _ _ _ into .. => into.isSome
  | .insert .. | .toFiles .. | .update .. => true
  | .query _ | .values .. | .table _ | .combined .. => false

/-- Whether a part changes something by itself. -/
def Part.changes : Part → Bool
  | .body b => b.changes
  | .expr _ | .query _ | .source _ => false

/-- A part can write if it changes something by itself or has a part that can write. -/
inductive Part.Writes : Part → Prop
  | here {p : Part} (changes : p.changes = true) : Writes p
  | inside {p q : Part} (isPart : q ∈ p.parts) (writes : Writes q) : Writes p

/-- Whether a part can write, found by going through all that is below it. -/
def Part.writes (p : Part) : Bool :=
  p.changes || p.parts.attach.any fun q => q.val.writes
termination_by sizeOf p
decreasing_by exact sizeOf_lt_of_mem_parts q.property

theorem Part.writes_eq (p : Part) : p.writes = (p.changes || p.parts.any Part.writes) := by
  rw [Part.writes]
  simp

theorem Part.writes_iff {p : Part} : p.writes = true ↔ p.Writes := by
  constructor
  · intro h
    -- By induction along the way down, which the size of the parts bounds.
    fun_induction Part.writes p with
    | case1 p ih =>
      rcases Bool.or_eq_true_iff.mp h with changes | below
      · exact .here changes
      · obtain ⟨q, -, writes⟩ := List.any_eq_true.mp below
        exact .inside q.property (ih q writes)
  · intro h
    induction h with
    | here changes => rw [Part.writes_eq, changes, Bool.true_or]
    | inside isPart _ ih =>
      rw [Part.writes_eq, List.any_eq_true.mpr ⟨_, isPart, ih⟩, Bool.or_true]

/-! ### What a statement writes -/

/-- A value that turns an option off. -/
def Expr.isOff : Expr → Bool
  | .constant (.bool on) => !on
  | .constant (.number digits _) => digits == "0"
  | .ident i => i.text.toUpper == "OFF"
  | _ => false

/-- An option of a plan that has the statement run. -/
def Expr.asksToRun : Expr → Bool
  | .ident i => i.text.toUpper == "ANALYZE"
  | .phrase name [value] => name.toUpper == "ANALYZE" && !value.isOff
  | _ => false

def planRuns (analyze : Bool) (options : List Expr) : Bool :=
  analyze || options.any Expr.asksToRun

def ShowFilter.parts : ShowFilter → List Part
  | .condition e => [.expr e]
  | .like _ | .ilike _ | .bare _ => []

namespace Statement

/-- The parts that are evaluated when a statement runs that alters nothing by its own form. -/
def parts : Statement → List Part
  | .query q => [.query q]
  | .showTables _ _ filter | .showColumns _ _ filter | .showListing _ filter =>
    filter.toList.flatMap ShowFilter.parts
  | .set _ _ values | .setAll _ _ values => exprs values
  | .command phrases => exprs phrases
  | .commandOn phrases q => .query q :: exprs phrases
  | _ => []

-- What a command writes is up to the engine: `acts` says which commands write.
variable (acts : List Expr → Bool)

/-- Whether a statement alters data or definitions by its own form. -/
def alters : Statement → Bool
  | .query _ | .explain .. | .explainTable .. | .showTables .. | .showColumns .. | .showCreate ..
  | .showListing .. | .showVariable _ | .use _ | .set .. | .setAll .. | .begin .. | .commit _
  | .rollback .. | .prepare .. => false
  | .command phrases | .commandOn phrases _ => acts phrases
  | .change _ | .delete .. | .merge .. | .drop .. | .truncate .. | .createTable _ | .createView _
  | .createIndex _ | .alterTable .. | .alterView .. | .optimize .. | .procedure .. => true

/-- A statement can write if its form says so, if one of its parts can, or if it is the plan of a
statement that can and runs it. -/
inductive Writes : Statement → Prop
  | form {s : Statement} (alters : s.alters acts = true) : Writes s
  | part {s : Statement} {p : Part} (isPart : p ∈ s.parts) (writes : p.Writes) : Writes s
  | plan {word : String} {queryPlan analyze verbose : Bool} {format : Option String}
      {options : List Expr} {s : Statement} (runs : planRuns analyze options = true)
      (writes : Writes s) : Writes (.explain word queryPlan analyze verbose format options s)

/-- Whether a statement can write although its form does not say so. -/
def conceals : Statement → Bool
  | .explain _ _ analyze _ _ options s =>
    planRuns analyze options && (s.alters acts || s.conceals)
  | s => s.parts.any Part.writes

variable {acts}

/-- A statement conceals what its parts write; a plan has no parts of its own. -/
theorem conceals_of_parts {s : Statement} {p : Part} (isPart : p ∈ s.parts) (writes : p.Writes) :
    s.conceals acts = true := by
  have below : s.parts.any Part.writes = true :=
    List.any_eq_true.mpr ⟨p, isPart, Part.writes_iff.mpr writes⟩
  cases s with
  | explain => cases isPart
  | _ => simpa only [conceals] using below

theorem writes_iff {s : Statement} :
    s.Writes acts ↔ s.alters acts = true ∨ s.conceals acts = true := by
  constructor
  · intro h
    induction h with
    | form alters => exact .inl alters
    | part isPart writes => exact .inr (conceals_of_parts isPart writes)
    | plan runs _ ih => exact .inr (by simpa [conceals, runs] using ih)
  · rintro (h | h)
    · exact .form h
    · fun_induction conceals acts s with
      | case1 word queryPlan analyze verbose format options s ih =>
        rw [Bool.and_eq_true, Bool.or_eq_true_iff] at h
        obtain ⟨runs, alters | conceals⟩ := h
        · exact .plan runs (.form alters)
        · exact .plan runs (ih conceals)
      | case2 s =>
        obtain ⟨p, isPart, writes⟩ := List.any_eq_true.mp h
        exact .part isPart (Part.writes_iff.mp writes)

/-- The outermost form of a read-only statement alters nothing. -/
theorem alters_of_isReadOnly {s : Statement} (h : s.isReadOnly = true) : s.alters acts = false := by
  cases s <;> first | rfl | cases h

end Statement

theorem isReadOnly_eq_ok_true_iff {g : Grammar} {sql : String} :
    isReadOnly g sql = .ok true ↔
      ∃ ss, readScript g sql = .ok ss ∧ ss ≠ [] ∧ ∀ s ∈ ss, s.isReadOnly = true := by
  unfold isReadOnly
  cases readScript g sql <;> simp [Except.map]

/-- A check that is run on a script shows what holds of its statements. -/
theorem isReadOnly_of_check {check : Statement → Bool} {n : Nat} {g : Grammar} {sql : String}
    (h : (readScript g sql).toOption.any (fun ss =>
      ss.length == n + 1 && ss.all fun s => s.isReadOnly && check s) = true) :
    ∃ ss, readScript g sql = .ok ss ∧ isReadOnly g sql = .ok true ∧ ss.length = n + 1 ∧
      ∀ s ∈ ss, check s = true := by
  cases read : readScript g sql with
  | error e => simp [read, Except.toOption] at h
  | ok ss =>
    simp only [read, Except.toOption, Option.any_some, Bool.and_eq_true, beq_iff_eq,
      List.all_eq_true] at h
    obtain ⟨length, each⟩ := h
    refine ⟨ss, rfl, isReadOnly_eq_ok_true_iff.mpr ?_, length, fun s hs => (each s hs).2⟩
    exact ⟨ss, read, List.ne_nil_of_length_eq_add_one length, fun s hs => (each s hs).1⟩

/-- A script that is called read-only has statements, none of which alters anything by its own form;
it writes nothing exactly when none of them conceals that it writes. -/
theorem isReadOnly_sound_iff {acts : List Expr → Bool} {g : Grammar} {sql : String}
    (h : isReadOnly g sql = .ok true) :
    ∃ ss, readScript g sql = .ok ss ∧ ss ≠ [] ∧ (∀ s ∈ ss, s.alters acts = false) ∧
      ((∀ s ∈ ss, ¬ s.Writes acts) ↔ ∀ s ∈ ss, s.conceals acts = false) := by
  obtain ⟨ss, read, nonempty, readOnly⟩ := isReadOnly_eq_ok_true_iff.mp h
  have form : ∀ s ∈ ss, s.alters acts = false := fun s hs =>
    Statement.alters_of_isReadOnly (readOnly s hs)
  refine ⟨ss, read, nonempty, form, forall₂_congr fun s hs => ?_⟩
  simp [Statement.writes_iff, form s hs]

/-- A query of a common table, and the plan of an `INSERT` that does not run. -/
theorem isReadOnly_sound_of_plan :
    isReadOnly .generic "WITH u AS (SELECT 1) SELECT 2; EXPLAIN INSERT INTO t VALUES (1)" =
        .ok true ∧
      ∃ ss, readScript .generic
          "WITH u AS (SELECT 1) SELECT 2; EXPLAIN INSERT INTO t VALUES (1)" = .ok ss ∧
        ss.length = 2 ∧ ∀ s ∈ ss, ¬ s.Writes fun _ => true := by
  obtain ⟨ss, read, answer, two, each⟩ :=
    @isReadOnly_of_check (fun s => !s.conceals fun _ => true) 1 .generic
      "WITH u AS (SELECT 1) SELECT 2; EXPLAIN INSERT INTO t VALUES (1)" (by decide +kernel)
  obtain ⟨ss', read', -, -, sound⟩ := @isReadOnly_sound_iff (fun _ => true) _ _ answer
  cases read.symm.trans read'
  exact ⟨answer, ss, read, two, sound.mpr fun s hs => by simpa using each s hs⟩

/-- **Three ways around the check.** Each of the statements writes: the plan runs an `INSERT`, the
body of the first query is one, and the second query makes a table. -/
theorem isReadOnly_of_writing :
    isReadOnly .generic ("EXPLAIN ANALYZE INSERT INTO t VALUES (1); " ++
        "WITH u AS (SELECT 1) INSERT INTO t SELECT 2; SELECT 1 INTO v") = .ok true ∧
      ∃ ss, readScript .generic ("EXPLAIN ANALYZE INSERT INTO t VALUES (1); " ++
          "WITH u AS (SELECT 1) INSERT INTO t SELECT 2; SELECT 1 INTO v") = .ok ss ∧
        ss.length = 3 ∧ ∀ s ∈ ss, s.Writes fun _ => false := by
  obtain ⟨ss, read, answer, three, each⟩ :=
    @isReadOnly_of_check (fun s => s.conceals fun _ => false) 2 .generic
      ("EXPLAIN ANALYZE INSERT INTO t VALUES (1); " ++
        "WITH u AS (SELECT 1) INSERT INTO t SELECT 2; SELECT 1 INTO v") (by decide +kernel)
  exact ⟨answer, ss, read, three, fun s hs => Statement.writes_iff.mpr (.inr (each s hs))⟩

end SqlDialect.Sql
