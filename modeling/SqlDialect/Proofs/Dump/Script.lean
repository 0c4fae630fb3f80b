import SqlDialect.ClickHouse.Generator
import SqlDialect.Proofs.Dump.Writing
import SqlDialect.Proofs.Text.Lines
/-!
# Dumps as scripts

A script holds statements, each with the terminator and a line end behind it, and
between them lines that do nothing: empty ones and comments (`IsScript`).

A dump is a script of the statements it was made from only if the name of the table
lets it: the headings put a name behind `-- ` as it is, and where a name goes on in
another line, that line is no comment of its own. `dump_isScript_iff` says that
nothing else can go wrong.

The proof counts the lines that are not remarks (`codeLines`). The count is additive,
so a text that is a script of some statements has as many as these statements have
(`IsScript.codeLines_eq`), and a dump has those in its headings besides.
-/

namespace SqlDialect

open Text (splitOn)

/-! ### Scripts -/

/-- A line that does nothing: an empty one, or a comment. -/
def isRemark (line : List Char) : Bool :=
  line.isEmpty || (Text.stripPrefix? "-- ".toList line).isSome

/-- A text of these statements in order, each with the terminator and a line end, and
of remarks before, between and behind them. -/
inductive IsScript (terminator : String) : List String → List Char → Prop
  | done : IsScript terminator [] []
  | remark {line : List Char} {ss : List String} {text : List Char} (hline : isRemark line = true)
    (hend : '\n' ∉ line) (h : IsScript terminator ss text) :
    IsScript terminator ss (line ++ '\n' :: text)
  | statement {s : String} {ss : List String} {text : List Char}
    (h : IsScript terminator ss text) :
    IsScript terminator (s :: ss) (lineText (s ++ terminator) ++ text)

/-- How many lines of a text are not remarks. -/
def codeLines (text : List Char) : Nat := (splitOn '\n' text).countP fun line => !isRemark line

theorem codeLines_append_line (s t : List Char) :
    codeLines (s ++ '\n' :: t) = codeLines s + codeLines t := by
  rw [codeLines, Text.splitOn_append_cons, List.countP_append]
  rfl

theorem codeLines_lineText (s : String) (t : List Char) :
    codeLines (lineText s ++ t) = codeLines s.toList + codeLines t := by
  rw [lineText, List.append_assoc]
  exact codeLines_append_line _ _

def statementLines (terminator : String) (ss : List String) : Nat :=
  (ss.flatMap fun s => splitOn '\n' (s ++ terminator).toList).countP fun line => !isRemark line

theorem codeLines_scriptLines (terminator : String) (ss : List String) (t : List Char) :
    codeLines (scriptLines terminator ss ++ t) = statementLines terminator ss + codeLines t := by
  induction ss with
  | nil => exact (Nat.zero_add _).symm
  | cons s ss ih =>
    rw [scriptLines, List.flatMap_cons, List.append_assoc, codeLines_lineText, ← scriptLines, ih,
      statementLines, statementLines, List.flatMap_cons, List.countP_append, codeLines,
      Nat.add_assoc]

variable {terminator : String} {ss ss' : List String} {text : List Char}

/-- **A script has the lines of its statements** and no others but remarks. -/
theorem IsScript.codeLines_eq (h : IsScript terminator ss text) :
    codeLines text = statementLines terminator ss := by
  induction h with
  | done => rfl
  | @remark line ss text hline hend _ ih =>
    have hzero : codeLines line = 0 := by
      rw [codeLines, Text.splitOn_of_not_mem hend]
      simp [hline]
    rw [codeLines_append_line, hzero, ih, Nat.zero_add]
  | statement _ ih =>
    rw [codeLines_lineText, ih, codeLines, statementLines, statementLines, List.flatMap_cons,
      List.countP_append]

theorem IsScript.remarks {lines : List (List Char)}
    (hlines : ∀ line ∈ lines, isRemark line = true ∧ '\n' ∉ line)
    (h : IsScript terminator ss text) :
    IsScript terminator ss (lines.flatMap (· ++ ['\n']) ++ text) := by
  induction lines with
  | nil => exact h
  | cons line lines ih =>
    obtain ⟨hline, hrest⟩ := List.forall_mem_cons.mp hlines
    rw [List.flatMap_cons, List.append_assoc, List.append_assoc, List.singleton_append]
    exact .remark hline.1 hline.2 (ih hrest)

theorem IsScript.statements (ss : List String) (h : IsScript terminator ss' text) :
    IsScript terminator (ss ++ ss') (scriptLines terminator ss ++ text) := by
  induction ss with
  | nil => exact h
  | cons s ss ih =>
    rw [scriptLines, List.flatMap_cons, List.append_assoc]
    exact .statement ih

theorem statementLines_append (ss ss' : List String) :
    statementLines terminator (ss ++ ss') =
      statementLines terminator ss + statementLines terminator ss' := by
  simp only [statementLines, List.flatMap_append, List.countP_append]

/-! ### Headings -/

/-- A text that opens a comment on one line. -/
structure OpensComment (lead : String) : Prop where
  dashes : "-- ".toList <+: lead.toList
  oneLine : '\n' ∉ lead.toList

/-- Every line of a name behind the first one is a remark. -/
def GoesOnInRemarks (name : String) : Prop :=
  ∀ line ∈ (splitOn '\n' name.toList).tail, isRemark line = true

/-- How many lines of a name behind the first one are not remarks. -/
def strayLines (name : String) : Nat :=
  (splitOn '\n' name.toList).tail.countP fun line => !isRemark line

theorem strayLines_eq_zero_iff {name : String} : strayLines name = 0 ↔ GoesOnInRemarks name := by
  rw [strayLines, List.countP_eq_zero, GoesOnInRemarks]
  simp

variable {lead : String}

/-- The lines of a heading: the first is a comment, the others are those of the name. -/
theorem OpensComment.exists_splitOn (hlead : OpensComment lead) (name : String) :
    ∃ first, splitOn '\n' (lead ++ name).toList = first :: (splitOn '\n' name.toList).tail ∧
      isRemark first = true := by
  obtain ⟨piece, pieces, hname⟩ :=
    List.exists_cons_of_ne_nil (Text.splitOn_ne_nil '\n' name.toList)
  obtain ⟨title, htitle⟩ := hlead.dashes
  refine ⟨lead.toList ++ piece, ?_, ?_⟩
  · rw [String.toList_append, hname]
    exact Text.splitOn_append_of_not_mem hlead.oneLine hname
  · rw [isRemark, ← htitle, List.append_assoc, Text.stripPrefix?_eq_some_iff.mpr rfl,
      Option.isSome_some, Bool.or_true]

theorem OpensComment.codeLines_eq (hlead : OpensComment lead) (name : String) :
    codeLines (lead ++ name).toList = strayLines name := by
  obtain ⟨first, hsplit, hfirst⟩ := hlead.exists_splitOn name
  rw [codeLines, hsplit, strayLines, List.countP_cons_of_neg]
  simp [hfirst]

theorem IsScript.heading (hlead : OpensComment lead) {name : String}
    (hname : GoesOnInRemarks name) (h : IsScript terminator ss text) :
    IsScript terminator ss (lineText (lead ++ name) ++ text) := by
  obtain ⟨first, hsplit, hfirst⟩ := hlead.exists_splitOn name
  have hlines : ∀ line ∈ splitOn '\n' (lead ++ name).toList,
      isRemark line = true ∧ '\n' ∉ line := by
    intro line hline
    refine ⟨?_, Text.not_mem_of_mem_splitOn hline⟩
    rw [hsplit, List.mem_cons] at hline
    rcases hline with rfl | hline
    · exact hfirst
    · exact hname line hline
  rw [lineText, ← Text.flatMap_splitOn]
  exact h.remarks hlines

/-! ### Dumps -/

open DumpHelper (inserts)

theorem opensComment_structure : OpensComment "-- Table structure for " :=
  ⟨by decide, by decide⟩

theorem opensComment_records : OpensComment "-- Records of " := ⟨by decide, by decide⟩

variable (table : String) (ddl : List String)

theorem codeLines_structureText (rest : List Char) :
    codeLines (({} : DumpHelper).structureText table ddl ++ rest) =
      strayLines table + statementLines ";" ddl + codeLines rest := by
  rw [DumpHelper.structureText, List.append_assoc, codeLines_lineText,
    opensComment_structure.codeLines_eq, codeLines_scriptLines, Nat.add_assoc]

theorem codeLines_recordsText (ss : List String) :
    codeLines (({} : DumpHelper).recordsText table ss) =
      strayLines table + statementLines ";" ss := by
  rw [DumpHelper.recordsText, codeLines_lineText, codeLines_lineText,
    opensComment_records.codeLines_eq]
  exact (Nat.zero_add _).trans
    (congrArg (strayLines table + ·) (codeLines_scriptLines ";" ss []))

theorem isScript_structureText {rest : List Char} (hname : GoesOnInRemarks table)
    (h : IsScript ";" ss rest) :
    IsScript ";" (ddl ++ ss) (({} : DumpHelper).structureText table ddl ++ rest) := by
  rw [DumpHelper.structureText, List.append_assoc]
  exact (h.statements ddl).heading opensComment_structure hname

theorem isScript_recordsText (ss : List String) (hname : GoesOnInRemarks table) :
    IsScript ";" ss (({} : DumpHelper).recordsText table ss) := by
  have hss : IsScript ";" (ss ++ []) (scriptLines ";" ss ++ []) := IsScript.done.statements ss
  rw [List.append_nil ss] at hss
  exact @IsScript.remark _ [] _ _ rfl List.not_mem_nil (hss.heading opensComment_records hname)

/-- The text of a dump is a script exactly if its headings are remarks. -/
theorem isScript_dump_iff {noRows : Bool} (hss : noRows = true → ss = []) :
    IsScript ";" (ddl ++ ss) (({} : DumpHelper).structureText table ddl ++
      if noRows then [] else ({} : DumpHelper).recordsText table ss) ↔ GoesOnInRemarks table := by
  cases noRows with
  | true =>
    rw [if_pos rfl, hss rfl]
    constructor
    · intro h
      have hcount := h.codeLines_eq
      rw [codeLines_structureText, List.append_nil] at hcount
      exact strayLines_eq_zero_iff.mp (by omega)
    · exact fun hname => isScript_structureText table ddl hname .done
  | false =>
    rw [if_neg Bool.false_ne_true]
    constructor
    · intro h
      have hcount := h.codeLines_eq
      rw [codeLines_structureText, codeLines_recordsText, statementLines_append] at hcount
      exact strayLines_eq_zero_iff.mp (by omega)
    · exact fun hname =>
        isScript_structureText table ddl hname (isScript_recordsText table ss hname)

/-- **When a dump is a script of its statements**: exactly if the name of the table
goes on in nothing but remarks. -/
theorem dump_isScript_iff {g : Generator} {t : Table} {cs : List Column} {rows : List (List Cell)}
    {drop : Bool} {size : Nat} {sink sink' : Sink}
    (h : ({} : DumpHelper).dump g t cs rows drop size sink = (.ok (), sink')) :
    ∃ sss, inserts g t.tableName cs (batches size rows) = .ok sss ∧
      ((∃ text, sink'.written = sink.written ++ Text.Utf8.encode text ∧
          IsScript ";" (g.tableDdl t cs drop ++ sss.flatten) text) ↔
        GoesOnInRemarks t.tableName) := by
  cases hsss : inserts g t.tableName cs (batches size rows) with
  | error e =>
    obtain ⟨out, hout⟩ := DumpHelper.yields_dump_error {} hsss drop
    cases (hout.of_ok h).1
  | ok sss =>
    have hwritten := ((DumpHelper.yields_dump {} hsss drop).of_ok h).2
    have hnone : rows.isEmpty = true → sss.flatten = [] := by
      intro hrows
      rw [List.isEmpty_iff.mp hrows, batches] at hsss
      cases hsss
      rfl
    have hscript := isScript_dump_iff t.tableName (g.tableDdl t cs drop) hnone
    refine ⟨sss, rfl, ?_, fun hname => ⟨_, hwritten, hscript.mpr hname⟩⟩
    rintro ⟨text, htext, h⟩
    obtain rfl := Text.Utf8.encode_injective (List.append_cancel_left (hwritten.symm.trans htext))
    exact hscript.mp h

def numbers : Column := ⟨"t", "a", "Int32", none, false, false, none, false⟩

/-- Three rows in two batches, into a table whose name goes on in a comment. -/
theorem dump_isScript_of_comment :
    ∃ sink', ({} : DumpHelper).dump ClickHouse.generator { tableName := "t\n-- u" } [numbers]
        [[.int32 1], [.int32 2], [.int32 3]] false 2 {} = (.ok (), sink') ∧
      ∃ text, sink'.written = Text.Utf8.encode text ∧ IsScript ";"
        ["CREATE TABLE `t\n-- u` (\n  `a` Int32\n) ENGINE = MergeTree() ORDER BY tuple()",
          "INSERT INTO `t\n-- u` (`a`) VALUES (1), (2)", "INSERT INTO `t\n-- u` (`a`) VALUES (3)"]
        text := by
  have hsss : inserts ClickHouse.generator "t\n-- u" [numbers]
      (batches 2 [[.int32 1], [.int32 2], [.int32 3]]) =
      .ok [["INSERT INTO `t\n-- u` (`a`) VALUES (1), (2)"],
        ["INSERT INTO `t\n-- u` (`a`) VALUES (3)"]] := by
    decide +kernel
  have hdump := (DumpHelper.yields_dump {} (t := { tableName := "t\n-- u" }) hsss false []).1
  obtain ⟨sss, hsss', hscript⟩ := dump_isScript_iff hdump
  have hname : GoesOnInRemarks "t\n-- u" := by
    unfold GoesOnInRemarks
    decide
  obtain rfl := Except.ok.inj (hsss.symm.trans hsss')
  obtain ⟨text, htext, h⟩ := hscript.mpr hname
  exact ⟨_, hdump, text, htext, h⟩

/-- **A heading that drops a table.** The second line of the name is no comment, and
it is none of the statements. -/
theorem name_outside_statements :
    ∃ sink', ({} : DumpHelper).dump ClickHouse.generator { tableName := "t\nDROP TABLE u;" }
        [numbers] [] false 1 {} = (.ok (), sink') ∧
      sink'.written = Text.Utf8.encode
        ("-- Table structure for t\nDROP TABLE u;\nCREATE TABLE `t\nDROP TABLE u;` (\n" ++
          "  `a` Int32\n) ENGINE = MergeTree() ORDER BY tuple();\n").toList ∧
      ¬∃ text, sink'.written = Text.Utf8.encode text ∧ IsScript ";"
        (ClickHouse.generator.tableDdl { tableName := "t\nDROP TABLE u;" } [numbers] false ++ [])
        text := by
  have hsss : inserts ClickHouse.generator "t\nDROP TABLE u;" [numbers] (batches 1 []) =
      .ok [] := by
    decide +kernel
  have hdump := (DumpHelper.yields_dump {} (t := { tableName := "t\nDROP TABLE u;" }) hsss
    false []).1
  refine ⟨_, hdump, by decide +kernel, ?_⟩
  rintro ⟨text, htext, h⟩
  obtain rfl := Text.Utf8.encode_injective htext
  have hname := (isScript_dump_iff _ _ fun _ => rfl).mp h
  unfold GoesOnInRemarks at hname
  exact absurd hname (by decide)

end SqlDialect
