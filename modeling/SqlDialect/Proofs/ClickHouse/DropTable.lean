import SqlDialect.Proofs.ClickHouse.Question
import SqlDialect.Proofs.Identifier.Path
/-!
# The table that a script drops

The definition of a table is looked up by its name, which is sent as a parameter and so
means a table of this very name in the database of the connection. The script that is to
replace the table drops it first, and there the name is written as a dotted one.

`dropped_is_asked_iff` says when both are the same table: if no dot in the name stands
outside backquotes and the name does not pass for quoted. For every other name the script
drops another table than the one whose definition it holds.
-/

namespace SqlDialect.ClickHouse.Catalog

variable {σ : Type}

/-- The path of the table that a script drops first. -/
def droppedPath? (script : String) : Option (List String) := do
  let s ← Text.stripPrefix? "DROP TABLE IF EXISTS ".toList script.toList
  let (path, _) ← quoting.readPath? s
  return path.map String.ofList

/-- What is made of a definition that is not empty. -/
def replacing (table ddl : String) : String := dropTable table ++ ";\n" ++ ddl

theorem toList_replacing (table ddl : String) :
    (replacing table ddl).toList = "DROP TABLE IF EXISTS ".toList ++
      (quoting.quoteQualifiedChars table.toList ++ ';' :: '\n' :: ddl.toList) := by
  delta replacing dropTable
  simp [Quoting.quoteQualified]

theorem droppedPath?_eq_some_iff {script : String} {path : List String} :
    droppedPath? script = some path ↔
      ∃ s rest, script.toList = "DROP TABLE IF EXISTS ".toList ++ s ∧
        quoting.readPath? s = some (path.map String.toList, rest) := by
  simp only [droppedPath?, Option.bind_eq_bind, Option.bind_eq_some_iff,
    Text.stripPrefix?_eq_some_iff]
  constructor
  · rintro ⟨s, hs, ⟨names, rest⟩, hnames, hpath⟩
    cases hpath
    refine ⟨s, rest, hs, ?_⟩
    rw [hnames, List.map_map]
    simp [Function.comp_def]
  · rintro ⟨s, rest, hs, hnames⟩
    refine ⟨s, hs, _, hnames, ?_⟩
    simp [Function.comp_def]

/-- **Which table a script drops.** It is the one of this name exactly if the name is not divided
and does not pass for quoted. -/
theorem droppedPath?_replacing_iff (table ddl : String) :
    droppedPath? (replacing table ddl) = some [table] ↔ quoting.Undivided table.toList := by
  have hfollows : ∀ c ∈ (';' :: '\n' :: ddl.toList).head?, c ≠ '.' ∧ ¬quoting.rule.IsPair c := by
    rintro c ⟨⟩
    refine ⟨by decide, ?_⟩
    rintro (h | h)
    · exact absurd h (by decide)
    · exact absurd h.1 (by decide)
  rw [← Quoting.readPath?_quoteQualifiedChars_iff Quoting.hasMarks_clickHouse rfl rfl hfollows,
    droppedPath?_eq_some_iff]
  constructor
  · rintro ⟨s, rest, hs, hpath⟩
    rw [toList_replacing] at hs
    rw [List.append_cancel_left hs]
    exact ⟨rest, hpath⟩
  · rintro ⟨rest, hpath⟩
    exact ⟨_, rest, toList_replacing table ddl, hpath⟩

/-- What is made of the reply to the one query. -/
def scriptOf (table : String) : Except DbError ResultSet → Except DbError String
  | .error e => .error e
  | .ok result => (definitionOf result).map fun ddl => if ddl = "" then "" else replacing table ddl

theorem replacing_eq (table ddl : String) :
    (if true && ddl != "" then dropTable table ++ ";\n" ++ ddl else ddl) =
      if ddl = "" then "" else replacing table ddl := by
  by_cases hddl : ddl = "" <;> simp [hddl, replacing]

theorem tableDefinition_talks (c : Connection σ) (s : σ) (table : String) :
    ∃ reply s', Action.Talks (tableDefinition c table true) (tableDefinition c.traced table true) s
      [.query definitionQuery [.string c.database, .string table] reply] (scriptOf table reply)
      s' := by
  obtain ⟨es, r, s', htalks, hpath⟩ := (Question.definition table true).exists_talks c s
  obtain ⟨reply, rest, rfl, hrest⟩ := Plan.path_ask_iff.mp hpath
  have hend : rest = [] ∧ r = scriptOf table reply := by
    cases reply with
    | error e => exact Plan.path_done_iff.mp hrest
    | ok result =>
      obtain ⟨hnil, hr⟩ := Plan.path_done_iff.mp hrest
      have hscript := funext (replacing_eq table)
      exact ⟨hnil, hr.trans (congrArg (fun f => (definitionOf result).map f) hscript)⟩
  obtain ⟨rfl, rfl⟩ := hend
  exact ⟨reply, s', htalks⟩

theorem scriptOf_eq_ok_iff {table script : String} {reply : Except DbError ResultSet}
    (hscript : script ≠ "") :
    scriptOf table reply = .ok script ↔ ∃ result ddl, reply = .ok result ∧
      definitionOf result = .ok ddl ∧ ddl ≠ "" ∧ script = replacing table ddl := by
  constructor
  · intro h
    cases reply with
    | error e => cases h
    | ok result =>
      rw [scriptOf] at h
      cases hddl : definitionOf result with
      | error e => rw [hddl] at h; cases h
      | ok ddl =>
        rw [hddl] at h
        obtain rfl := Except.ok.inj h
        by_cases hempty : ddl = ""
        · exact absurd (if_pos hempty) hscript
        · exact ⟨result, ddl, rfl, hddl, hempty, if_neg hempty⟩
  · rintro ⟨result, ddl, rfl, hddl, hempty, rfl⟩
    rw [scriptOf, hddl, Except.map, if_neg hempty]

/-- **The table that is dropped is not always the table that was asked for.** For the script that
replaces a table one query is sent, with the name of the table as a parameter. A script that is not
empty drops a table in front of the definition that came back. The name it drops reads as the
name that was sent, and as nothing else, exactly if that one has no dot outside backquotes
and does not pass for quoted. -/
theorem dropped_is_asked_iff (c : Connection σ) (s : σ) (table : String) :
    ∃ reply r s', tableDefinition c table true s = (r, s') ∧
      tableDefinition c.traced table true ([], s) =
        (r, ([.query definitionQuery [.string c.database, .string table] reply], s')) ∧
      ∀ script : String, script ≠ "" →
        (r = .ok script ↔ ∃ result ddl, reply = .ok result ∧ definitionOf result = .ok ddl ∧
          ddl ≠ "" ∧ script = replacing table ddl) ∧
        (r = .ok script →
          (droppedPath? script = some [table] ↔ quoting.Undivided table.toList)) := by
  obtain ⟨reply, s', htalks⟩ := tableDefinition_talks c s table
  refine ⟨reply, scriptOf table reply, s', htalks.ends, htalks.tells [], ?_⟩
  intro script hscript
  have hok := @scriptOf_eq_ok_iff table script reply hscript
  refine ⟨hok, ?_⟩
  intro h
  obtain ⟨result, ddl, -, -, -, rfl⟩ := hok.mp h
  exact droppedPath?_replacing_iff table ddl

/-- A name with a dot and a backquote inside backquotes. -/
theorem dropped_is_asked_iff_of_marks :
    (tableDefinition (holding "create_table_query" "D") "a`.`\\b" true false).1 =
        .ok "DROP TABLE IF EXISTS `a``.``\\\\b`;\nD" ∧
      droppedPath? "DROP TABLE IF EXISTS `a``.``\\\\b`;\nD" = some ["a`.`\\b"] := by
  have hrun : (tableDefinition (holding "create_table_query" "D") "a`.`\\b" true false).1 =
      .ok "DROP TABLE IF EXISTS `a``.``\\\\b`;\nD" := by
    decide +kernel
  obtain ⟨reply, r, s', hr, -, hscript⟩ :=
    dropped_is_asked_iff (holding "create_table_query" "D") false "a`.`\\b"
  refine ⟨hrun, ((hscript _ (by decide)).2 ?_).mpr (by decide)⟩
  rw [hr] at hrun
  exact hrun

/-- **A script that drops another table.** The definition is that of the table `a.b` in the database
of the connection, and the table that is dropped is `b` in the database `a`. -/
theorem other_table_dropped :
    (∃ reply, (tableDefinition (holding "create_table_query" "D").traced "a.b" true
        ([], false)).2.1 = [.query definitionQuery [.string "default", .string "a.b"] reply]) ∧
      (tableDefinition (holding "create_table_query" "D") "a.b" true false).1 =
        .ok "DROP TABLE IF EXISTS `a`.`b`;\nD" ∧
      droppedPath? "DROP TABLE IF EXISTS `a`.`b`;\nD" = some ["a", "b"] ∧
      droppedPath? "DROP TABLE IF EXISTS `a`.`b`;\nD" ≠ some ["a.b"] := by
  have hpath : droppedPath? "DROP TABLE IF EXISTS `a`.`b`;\nD" = some ["a", "b"] := by
    decide +kernel
  refine ⟨⟨_, rfl⟩, ?_, hpath, ?_⟩
  · decide +kernel
  · rw [hpath]
    decide

end SqlDialect.ClickHouse.Catalog
