import Mathlib.Data.List.TakeWhile
import SqlDialect.Proofs.ClickHouse.Insert
import SqlDialect.Proofs.Text.Nesting
/-!
# Definitions of tables read back

`readDefinition?` reads the definition of a table with nothing but quotes and brackets:
the table, for each column its name, its type, its default and its comment, and the
comment of the table. `tableDdl_reads_back`: what is read is what the table was to be,
whatever characters and keywords stand in its names, types and comments.

Three things are needed for that. A type ends where it is to (`TypeCloses`), and so it
does with a wrapper around it (`typeCloses_ddlTypeChars`). A default ends where it is to
and does not run into the comment behind it (`ExpressionCloses`). All else is quoted and
passes. From one column the list follows by induction (`readColumns?_columnLines`): each
column leaves the reader where the next begins.
-/

namespace SqlDialect.ClickHouse

open Text (Quotes Place scan? cut cut_of_scan)
open Text.Quotes

/-! ### The reader -/

/-- The quotes of a definition: those of identifiers, of texts, and of what a type or an
expression may be written with. -/
def definitionQuotes : Quotes := ⟨['\x60', '\'', '"'], true⟩

def typeEnds : List Char := [' ', ',', '\n', ')']

def columnEnds : List Char := [',', ')']

def commentWord : List Char := "COMMENT".toList

/-- What a column is read as. -/
structure ColumnText where
  name : List Char
  type : List Char
  default : Option (List Char)
  comment : Option (List Char)

/-- What a definition is read as. -/
structure DefinitionText where
  table : List Char
  columns : List ColumnText
  comment : Option (List Char)

/-- The content of a text between single quotes. -/
def readLiteral? (s : List Char) : Option (List Char) := do
  let s ← Text.stripPrefix? ['\''] s
  let (text, rest) ← literals.rule.read? s
  if rest = [] then some text else none

/-- What stands in front of a comment, and the comment. -/
def readComment? (s : List Char) : Option (List Char × Option (List Char)) :=
  let words := definitionQuotes.pieces ' ' (.outside 0) s
  let front := [' '].intercalate (words.takeWhile (· != commentWord))
  match words.dropWhile (· != commentWord) with
  | [] => some (front, none)
  | _ :: rest => (readLiteral? ([' '].intercalate rest)).map fun text => (front, some text)

/-- The default and the comment of a column. -/
def readClauses? (s : List Char) : Option (Option (List Char) × Option (List Char)) := do
  let (front, comment) ← readComment? s
  if front = [] then some (none, comment)
  else (Text.stripPrefix? " DEFAULT ".toList front).map fun text => (some text, comment)

/-- The name and the type of a column, and what follows them. -/
def readNameAndType? (s : List Char) : Option ((List Char × List Char) × List Char) := do
  let s ← Text.stripPrefix? [' ', ' ', '\x60'] s
  let (name, s) ← quoting.rule.read? s
  let s ← Text.stripPrefix? [' '] s
  let parts := cut definitionQuotes.nextInParens typeEnds (.outside 0) s
  some ((name, parts.1), parts.2)

/-- The clauses of a column, and what ends them with all that follows. Behind the last
column its line ends as well. -/
def cutClauses? (s : List Char) : Option (List Char × List Char) :=
  let parts := cut definitionQuotes.next columnEnds (.outside 0) s
  if parts.2.head? = some ')' then
    (Text.stripSuffix? ['\n'] parts.1).map fun clauses => (clauses, parts.2)
  else some parts

/-- A column, and what ends it with all that follows. -/
def readColumn? (s : List Char) : Option (ColumnText × List Char) := do
  let ((name, type), s) ← readNameAndType? s
  let (text, s) ← cutClauses? s
  let (default, comment) ← readClauses? text
  some (⟨name, type, default, comment⟩, s)

theorem length_readNameAndType?_lt {s rest : List Char} {nameAndType : List Char × List Char}
    (h : readNameAndType? s = some (nameAndType, rest)) : rest.length < s.length := by
  simp only [readNameAndType?, Option.bind_eq_bind, Option.bind_eq_some_iff, Option.some.injEq,
    Prod.mk.injEq] at h
  obtain ⟨s₁, hs₁, ⟨name, s₂⟩, hs₂, s₃, hs₃, -, rfl⟩ := h
  have h₁ := congrArg List.length (Text.stripPrefix?_eq_some_iff.mp hs₁)
  have h₂ := Text.QuoteRule.length_read?_lt hs₂
  have h₃ : s₂.length = ([' '] ++ s₃).length :=
    congrArg List.length (Text.stripPrefix?_eq_some_iff.mp hs₃)
  have h₄ : (cut definitionQuotes.nextInParens typeEnds (.outside 0) s₃).2.length ≤ s₃.length :=
    Text.length_cut_le _ _
  rw [List.length_append] at h₁ h₃
  omega

theorem length_cutClauses?_le {s text rest : List Char} (h : cutClauses? s = some (text, rest)) :
    rest.length ≤ s.length := by
  have hle : (cut definitionQuotes.next columnEnds (.outside 0) s).2.length ≤ s.length :=
    Text.length_cut_le _ _
  rw [cutClauses?] at h
  split at h
  · obtain ⟨_, -, h⟩ := Option.map_eq_some_iff.mp h
    cases h
    exact hle
  · rw [Option.some.injEq] at h
    rwa [h] at hle

theorem length_readColumn?_lt {s rest : List Char} {c : ColumnText}
    (h : readColumn? s = some (c, rest)) : rest.length < s.length := by
  simp only [readColumn?, Option.bind_eq_bind, Option.bind_eq_some_iff, Option.some.injEq,
    Prod.mk.injEq] at h
  obtain ⟨⟨nameAndType, behind⟩, hname, ⟨text, rest⟩, htext, -, -, -, rfl⟩ := h
  exact Nat.lt_of_le_of_lt (length_cutClauses?_le htext) (length_readNameAndType?_lt hname)

/-- The columns up to the parenthesis that closes their list, and what follows it. -/
def readColumns? (s : List Char) : Option (List ColumnText × List Char) :=
  match h : readColumn? s with
  | some (c, ',' :: '\n' :: rest) =>
    have := length_readColumn?_lt h
    (readColumns? rest).map fun p => (c :: p.1, p.2)
  | some (c, ')' :: rest) => some ([c], rest)
  | _ => none
termination_by s.length
decreasing_by simp only [List.length_cons] at this; omega

def readDefinition? (s : List Char) : Option DefinitionText := do
  let s ← Text.stripPrefix? "CREATE TABLE ".toList s
  let (table, s) ← definitionQuotes.upTo? ' ' (.outside 0) s
  let s ← Text.stripPrefix? ['(', '\n'] s
  let (columns, s) ← readColumns? s
  let s ← Text.stripPrefix? (' ' :: storageClause.toList) s
  let (front, comment) ← readComment? s
  if front = [] then some ⟨table, columns, comment⟩ else none

/-! ### What ends where it is to -/

/-- The parentheses and quotes of a type are closed, and nothing that could end it stands
outside of them. -/
def TypeCloses (type : List Char) : Prop :=
  scan? definitionQuotes.nextInParens typeEnds (.outside 0) type = some (.outside 0)

instance (type : List Char) : Decidable (TypeCloses type) := inferInstanceAs (Decidable (_ = _))

/-- What an expression opens it closes, and outside there is no comma and no word that
begins a comment. -/
structure ExpressionCloses (e : List Char) : Prop where
  closes : definitionQuotes.pass? columnEnds (.outside 0) e = some (.outside 0)
  no_comment : commentWord ∉ definitionQuotes.pieces ' ' (.outside 0) e

instance (e : List Char) : Decidable (ExpressionCloses e) :=
  decidable_of_iff (_ ∧ _) ⟨fun h => ⟨h.1, h.2⟩, fun h => ⟨h.closes, h.no_comment⟩⟩

/-- Behind an opening the reader stands within one parenthesis, whichever opening it is. -/
theorem typeCloses_append_iff {opening : List Char}
    (hopen : scan? definitionQuotes.nextInParens typeEnds (.outside 0) opening = some (.outside 1))
    {s : List Char} :
    TypeCloses (opening ++ s) ↔
      scan? definitionQuotes.nextInParens typeEnds (.outside 1) s = some (.outside 0) := by
  rw [TypeCloses, Text.scan?_append, hopen, Option.bind_some]

theorem TypeCloses.wrap {opening : List Char}
    (hopen : scan? definitionQuotes.nextInParens typeEnds (.outside 0) opening = some (.outside 1))
    {type : List Char} (h : TypeCloses type) : TypeCloses (opening ++ (type ++ [')'])) := by
  have htype : scan? definitionQuotes.nextInParens typeEnds (.outside 1) type =
      some (.outside 1) := scan?_deeper (by decide) h
  have hclose : scan? definitionQuotes.nextInParens typeEnds (.outside 1) [')'] =
      some (.outside 0) := by decide
  rw [typeCloses_append_iff hopen, Text.scan?_append, htype, Option.bind_some, hclose]

/-- **A type that is made nullable ends where it is to.** -/
theorem TypeCloses.allowNull {type : List Char} (h : TypeCloses type) :
    TypeCloses (allowNull type) := by
  unfold ClickHouse.allowNull
  split
  · rename_i inner hinner
    split
    · exact h
    · rw [between?_eq_some_iff] at hinner
      subst hinner
      have hinside : TypeCloses (nullableOpening ++ (inner ++ [')'])) := by
        rw [List.append_assoc, typeCloses_append_iff (by decide)] at h
        rw [typeCloses_append_iff (by decide)]
        exact h
      have hwrap := @TypeCloses.wrap lowCardinalityOpening (by decide) _ hinside
      simpa using hwrap
  · rw [List.append_assoc]
    exact h.wrap (by decide)

theorem typeCloses_ddlTypeChars {c : Column} (h : TypeCloses c.dataType.toList) :
    TypeCloses (ddlTypeChars c) := by
  rw [ddlTypeChars]
  split
  · exact h
  · exact h.allowNull

/-- What a column has to keep for its definition to be read: a name that does not pass for
a quoted one, and a type and a default that end where they are to. -/
structure Delimited (c : Column) : Prop where
  name : quoting.isQuoted c.columnName.toList = false
  type : TypeCloses c.dataType.toList
  default : ∀ text e, c.defaultValue = some text →
    Sql.readExpression .clickHouse text = .ok e → ExpressionCloses e.text.toList

/-! ### What is written, as lists of characters -/

/-- A keyword and what it introduces, if there is anything. -/
def clause (keyword : List Char) : Option (List Char) → List Char
  | none => []
  | some text => keyword ++ text

def defaultText? (c : Column) : Option (List Char) :=
  (nonEmpty? c.defaultValue).bind fun text =>
    (Sql.readExpression .clickHouse text).toOption.map fun e => e.text.toList

theorem toList_defaultClause (c : Column) :
    (defaultClause c).toList = clause " DEFAULT ".toList (defaultText? c) := by
  unfold defaultClause defaultText?
  cases nonEmpty? c.defaultValue with
  | none => rfl
  | some text =>
    rw [Option.bind_some]
    cases h : Sql.readExpression .clickHouse text with
    | ok e => simp [h, Except.toOption, clause]
    | error e => simp [h, Except.toOption, clause]

theorem toList_commentClause (comment : Option String) :
    (commentClause comment).toList =
      clause " COMMENT ".toList
        ((nonEmpty? comment).map fun text => literals.quoteChars text.toList) := by
  unfold commentClause
  cases nonEmpty? comment with
  | none => rfl
  | some text => simp [clause, LiteralStyle.quote]

/-- What stands behind the type of a column. -/
def clauses (c : Column) : List Char := (defaultClause c).toList ++ (commentClause c.comment).toList

theorem toList_columnDefinition (c : Column) :
    (columnDefinition c).toList =
      [' ', ' '] ++ quoting.quoteChars c.columnName.toList ++ [' '] ++ ddlTypeChars c ++
        clauses c := by
  rw [columnDefinition, clauses]
  simp [Quoting.quote, ddlType]

/-! ### Clauses are read back -/

theorem pass?_quoteText {k : Quotes} {stops : List Char} (hmark : '\'' ∈ k.marks)
    (hb : k.backslash = true) (hstop : '\'' ∉ stops) (n : Nat) (text : List Char) :
    k.pass? stops (.outside n) (literals.quoteChars text) = some (.outside n) := by
  have hopen : k.next (.outside n) '\'' = .inside literals.rule.closing n := if_pos hmark
  rw [LiteralStyle.quoteChars, List.cons_append, pass?, if_neg fun h => hstop h.2, hopen]
  exact pass?_quoted (r := literals.rule) hb.symm hmark literals.closing_ne hstop n
    (LiteralStyle.read?_escapeChars literals text)

theorem readLiteral?_quoteText (text : List Char) :
    readLiteral? (literals.quoteChars text) = some text := by
  have hstrip : Text.stripPrefix? ['\''] (literals.quoteChars text) =
      some (literals.escapeChars text ++ ['\'']) := Text.stripPrefix?_eq_some_iff.mpr rfl
  simp [readLiteral?, hstrip, LiteralStyle.read?_escapeChars]

/-- The word in front of a comment stands apart, so whatever stands before it and holds no such
word is not touched. -/
theorem readComment?_front {front : List Char}
    (hpass : definitionQuotes.pass? [] (.outside 0) front = some (.outside 0))
    (hword : commentWord ∉ definitionQuotes.pieces ' ' (.outside 0) front)
    (comment : Option String) :
    readComment? (front ++ (commentClause comment).toList) =
      some (front, (nonEmpty? comment).map String.toList) := by
  have hne : ∀ word ∈ definitionQuotes.pieces ' ' (.outside 0) front,
      (word != commentWord) = true := fun word hw => bne_iff_ne.mpr fun h => hword (h ▸ hw)
  rw [toList_commentClause]
  cases nonEmpty? comment with
  | none =>
    rw [Option.map_none, clause, List.append_nil, readComment?,
      List.takeWhile_eq_self_iff.mpr hne, List.dropWhile_eq_nil_iff.mpr hne, intercalate_pieces]
    rfl
  | some text =>
    have hquoted : definitionQuotes.pieces ' ' (.outside 0) (literals.quoteChars text.toList) =
        [literals.quoteChars text.toList] :=
      pieces_of_pass (List.mem_singleton_self _)
        (pass?_quoteText (by decide) rfl (by decide) 0 text.toList)
    have hcomment : definitionQuotes.pieces ' ' (.outside 0)
        (commentWord ++ ' ' :: literals.quoteChars text.toList) =
          [commentWord, literals.quoteChars text.toList] := by
      rw [pieces_append (List.mem_singleton_self ' ') (by decide), hquoted]
    have hwords : definitionQuotes.pieces ' ' (.outside 0)
        (front ++ (" COMMENT ".toList ++ literals.quoteChars text.toList)) =
          definitionQuotes.pieces ' ' (.outside 0) front ++
            [commentWord, literals.quoteChars text.toList] := by
      rw [← hcomment, ← pieces_append_pieces (by decide) hpass]
      rfl
    simp only [readComment?, Option.map_some, clause]
    rw [hwords, List.takeWhile_append_of_pos hne, List.dropWhile_append_of_pos hne]
    -- the word itself is the first that is not taken
    simp only [List.takeWhile_cons, List.dropWhile_cons, bne_self_eq_false, Bool.false_eq_true,
      if_false, List.append_nil, intercalate_pieces, List.intercalate_singleton,
      readLiteral?_quoteText, Option.map_some]

theorem nonEmpty?_eq_some_iff {s : Option String} {text : String} :
    nonEmpty? s = some text ↔ s = some text ∧ text ≠ "" := by
  rw [nonEmpty?, Option.filter_eq_some_iff, bne_iff_ne]

theorem defaultText?_eq_some_iff {c : Column} {d : List Char} :
    defaultText? c = some d ↔
      ∃ text e, c.defaultValue = some text ∧ text ≠ "" ∧
        Sql.readExpression .clickHouse text = .ok e ∧ d = e.text.toList := by
  simp only [defaultText?, Option.bind_eq_some_iff, nonEmpty?_eq_some_iff, Option.map_eq_some_iff]
  constructor
  · rintro ⟨text, ⟨htext, hne⟩, e, he, rfl⟩
    cases h : Sql.readExpression .clickHouse text with
    | error err => simp [h, Except.toOption] at he
    | ok e' =>
      rw [h] at he
      cases he
      exact ⟨text, e, htext, hne, h, rfl⟩
  · rintro ⟨text, e, htext, hne, he, rfl⟩
    exact ⟨text, ⟨htext, hne⟩, e, by rw [he]; rfl, rfl⟩

theorem Delimited.expressionCloses {c : Column} (hc : Delimited c) {d : List Char}
    (hd : defaultText? c = some d) : ExpressionCloses d := by
  obtain ⟨text, e, htext, -, he, rfl⟩ := defaultText?_eq_some_iff.mp hd
  exact hc.default text e htext he

theorem Delimited.pass?_defaultClause {c : Column} (hc : Delimited c) :
    definitionQuotes.pass? columnEnds (.outside 0) (defaultClause c).toList =
      some (.outside 0) := by
  rw [toList_defaultClause]
  cases hd : defaultText? c with
  | none => rfl
  | some d => exact pass?_append_of (by decide) (hc.expressionCloses hd).closes

theorem Delimited.commentWord_not_mem {c : Column} (hc : Delimited c) :
    commentWord ∉ definitionQuotes.pieces ' ' (.outside 0) (defaultClause c).toList := by
  rw [toList_defaultClause]
  cases hd : defaultText? c with
  | none => decide
  | some d =>
    have hpieces : definitionQuotes.pieces ' ' (.outside 0) (" DEFAULT ".toList ++ d) =
        [] :: "DEFAULT".toList :: definitionQuotes.pieces ' ' (.outside 0) d := by
      have hfirst := pieces_append (k := definitionQuotes) (List.mem_singleton_self ' ')
        (s := []) rfl ("DEFAULT".toList ++ ' ' :: d)
      rw [pieces_append (List.mem_singleton_self ' ') (by decide)] at hfirst
      exact hfirst
    rw [clause, hpieces, List.mem_cons, List.mem_cons, not_or, not_or]
    exact ⟨by decide, by decide, (hc.expressionCloses hd).no_comment⟩

theorem Delimited.pass?_clauses {c : Column} (hc : Delimited c) :
    definitionQuotes.pass? columnEnds (.outside 0) (clauses c) = some (.outside 0) := by
  refine pass?_append_of hc.pass?_defaultClause ?_
  rw [toList_commentClause]
  cases nonEmpty? c.comment with
  | none => rfl
  | some text =>
    exact pass?_append_of (by decide) (pass?_quoteText (by decide) rfl (by decide) 0 text.toList)

theorem readClauses?_clauses {c : Column} (hc : Delimited c) :
    readClauses? (clauses c) = some (defaultText? c, (nonEmpty? c.comment).map String.toList) := by
  have hread := readComment?_front
    (pass?_mono (List.nil_subset _) hc.pass?_defaultClause) hc.commentWord_not_mem c.comment
  rw [clauses, readClauses?, hread, toList_defaultClause]
  cases defaultText? c with
  | none => rfl
  | some d =>
    have hstrip : Text.stripPrefix? " DEFAULT ".toList (" DEFAULT ".toList ++ d) = some d :=
      Text.stripPrefix?_eq_some_iff.mpr rfl
    have hne : " DEFAULT ".toList ++ d ≠ [] := List.append_ne_nil_of_left_ne_nil (by decide) d
    simp only [clause, Option.bind_eq_bind, Option.bind_some]
    rw [if_neg hne, hstrip, Option.map_some]

/-! ### Columns are read back -/

/-- What a column is read as once it is written. -/
def columnText (c : Column) : ColumnText where
  name := c.columnName.toList
  type := ddlTypeChars c
  default := defaultText? c
  comment := (nonEmpty? c.comment).map String.toList

/-- What stands behind a column: a comma, or the end of the line and the parenthesis that
closes the list. -/
inductive Ending : List Char → Char → Prop
  | comma : Ending [] ','
  | close : Ending ['\n'] ')'

theorem head?_clauses (c : Column) : clauses c = [] ∨ (clauses c).head? = some ' ' := by
  rw [clauses, toList_defaultClause, toList_commentClause]
  cases defaultText? c with
  | some d => exact Or.inr rfl
  | none =>
    cases nonEmpty? c.comment with
    | some text => exact Or.inr rfl
    | none => exact Or.inl rfl

/-- Whatever follows a type ends it. -/
theorem exists_typeEnd (c : Column) {line : List Char} {stop : Char} (h : Ending line stop)
    (rest : List Char) :
    ∃ d more, clauses c ++ (line ++ stop :: rest) = d :: more ∧ d ∈ typeEnds := by
  rcases head?_clauses c with hnil | hblank
  · rw [hnil]
    cases h with
    | comma => exact ⟨_, _, rfl, by decide⟩
    | close => exact ⟨_, _, rfl, by decide⟩
  · obtain ⟨more, hmore⟩ := List.head?_eq_some_iff.mp hblank
    exact ⟨' ', more ++ (line ++ stop :: rest), by rw [hmore]; rfl, by decide⟩

theorem readNameAndType?_columnDefinition {c : Column} (hc : Delimited c) {line : List Char}
    {stop : Char} (h : Ending line stop) (rest : List Char) :
    readNameAndType? ((columnDefinition c).toList ++ (line ++ stop :: rest)) =
      some ((c.columnName.toList, ddlTypeChars c), clauses c ++ (line ++ stop :: rest)) := by
  obtain ⟨d, more, hmore, hd⟩ := exists_typeEnd c h rest
  have hcut := cut_of_scan (typeCloses_ddlTypeChars hc.type) hd more
  have hname : quoting.rule.read? (c.columnName.toList.flatMap quoting.escapeChar ++
      '\x60' :: ' ' :: (ddlTypeChars c ++ d :: more)) =
        some (c.columnName.toList, ' ' :: (ddlTypeChars c ++ d :: more)) :=
    Text.QuoteRule.read?_escape (r := quoting.rule) (by decide) c.columnName.toList
      fun h => absurd (Option.some.inj h) (by decide)
  have hwrap : quoting.wrap c.columnName.toList =
      '\x60' :: (c.columnName.toList.flatMap quoting.escapeChar ++ ['\x60']) := rfl
  have hblank : Text.stripPrefix? [' '] (' ' :: (ddlTypeChars c ++ d :: more)) =
      some (ddlTypeChars c ++ d :: more) := Text.stripPrefix?_eq_some_iff.mpr rfl
  rw [toList_columnDefinition, Quoting.quoteChars_eq_wrap hc.name rfl, hwrap,
    List.append_assoc _ (clauses c), hmore]
  simp only [readNameAndType?, Option.bind_eq_bind, Option.bind_eq_some_iff]
  refine ⟨_, Text.stripPrefix?_eq_some_iff.mpr ?_, _, hname, _, hblank, by rw [hcut]⟩
  simp

theorem cutClauses?_clauses {c : Column} (hc : Delimited c) {line : List Char} {stop : Char}
    (h : Ending line stop) (rest : List Char) :
    cutClauses? (clauses c ++ (line ++ stop :: rest)) = some (clauses c, stop :: rest) := by
  have hscan : scan? definitionQuotes.next columnEnds (.outside 0) (clauses c) =
      some (.outside 0) := by
    rw [← pass?_eq_scan?]
    exact hc.pass?_clauses
  cases h with
  | comma =>
    rw [List.nil_append, cutClauses?, cut_of_scan hscan (by decide)]
    rfl
  | close =>
    have hline : scan? definitionQuotes.next columnEnds (.outside 0) (clauses c ++ ['\n']) =
        some (.outside 0) := by
      rw [Text.scan?_append, hscan]
      rfl
    have hstrip : Text.stripSuffix? ['\n'] (clauses c ++ ['\n']) = some (clauses c) :=
      Text.stripSuffix?_eq_some_iff.mpr rfl
    rw [← List.append_assoc, cutClauses?, cut_of_scan hline (by decide)]
    simp [hstrip]

/-- **A column is read back**, and the reader stops in front of what ends it. -/
theorem readColumn?_columnDefinition {c : Column} (hc : Delimited c) {line : List Char}
    {stop : Char} (h : Ending line stop) (rest : List Char) :
    readColumn? ((columnDefinition c).toList ++ (line ++ stop :: rest)) =
      some (columnText c, stop :: rest) := by
  simp only [readColumn?, Option.bind_eq_bind, Option.bind_eq_some_iff]
  exact ⟨_, readNameAndType?_columnDefinition hc h rest, _, cutClauses?_clauses hc h rest, _,
    readClauses?_clauses hc, rfl⟩

theorem readColumns?_comma {s rest : List Char} {c : ColumnText}
    (h : readColumn? s = some (c, ',' :: '\n' :: rest)) :
    readColumns? s = (readColumns? rest).map fun p => (c :: p.1, p.2) := by
  rw [readColumns?]
  split <;> simp_all

theorem readColumns?_close {s rest : List Char} {c : ColumnText}
    (h : readColumn? s = some (c, ')' :: rest)) : readColumns? s = some ([c], rest) := by
  rw [readColumns?]
  split <;> simp_all

/-- **The columns are read back**, one by one. -/
theorem readColumns?_columnLines {c : Column} {cs : List Column} (hcs : ∀ d ∈ c :: cs, Delimited d)
    (rest : List Char) :
    readColumns? ([',', '\n'].intercalate ((c :: cs).map fun d => (columnDefinition d).toList) ++
        ['\n', ')'] ++ rest) =
      some ((c :: cs).map columnText, rest) := by
  induction cs generalizing c with
  | nil =>
    rw [List.map_singleton, List.intercalate_singleton, List.append_assoc]
    exact readColumns?_close (readColumn?_columnDefinition (hcs c (List.mem_cons_self ..)) .close _)
  | cons d cs ih =>
    have hrest := ih fun e he => hcs e (List.mem_cons_of_mem _ he)
    have hread := readColumns?_comma
      (readColumn?_columnDefinition (hcs c (List.mem_cons_self ..)) .comma
        ('\n' :: ([',', '\n'].intercalate ((d :: cs).map fun e => (columnDefinition e).toList) ++
          ['\n', ')'] ++ rest)))
    rw [hrest] at hread
    rw [List.map_cons, List.map_cons, List.intercalate_cons_cons]
    simpa using hread

/-! ### The definition -/

/-- The text of a definition, part by part. -/
theorem toList_createTable (t : Table) (cs : List Column) :
    (createTable t cs).toList =
      "CREATE TABLE ".toList ++ (quoting.quoteQualifiedChars t.tableName.toList ++ ' ' ::
        (['(', '\n'] ++
          ([',', '\n'].intercalate (cs.map fun c => (columnDefinition c).toList) ++ ['\n', ')'] ++
            (' ' :: storageClause.toList ++ (commentClause t.comment).toList)))) := by
  delta createTable
  simp [Quoting.quoteQualified, Function.comp_def]

theorem readDefinition?_createTable {t : Table} {cs : List Column}
    (htable : '\x60' ∉ t.tableName.toList) (hne : cs ≠ []) (hcs : ∀ c ∈ cs, Delimited c) :
    readDefinition? (createTable t cs).toList =
      some ⟨quoting.quoteQualifiedChars t.tableName.toList, cs.map columnText,
        (nonEmpty? t.comment).map String.toList⟩ := by
  obtain ⟨c, cs, rfl⟩ := List.exists_cons_of_ne_nil hne
  have hpass : definitionQuotes.pass? [' '] (.outside 0)
      (quoting.quoteQualifiedChars t.tableName.toList) = some (.outside 0) :=
    pass?_quoteQualifiedChars (by decide) rfl (by decide) (by decide) htable
  have hcomment := @readComment?_front [] rfl (by decide) t.comment
  rw [toList_createTable]
  simp only [readDefinition?, Option.bind_eq_bind, Option.bind_eq_some_iff]
  refine ⟨_, Text.stripPrefix?_eq_some_iff.mpr rfl,
    _, upTo?_of_pass (List.mem_cons_self ..) hpass _,
    _, Text.stripPrefix?_eq_some_iff.mpr rfl,
    _, readColumns?_columnLines hcs _,
    _, Text.stripPrefix?_eq_some_iff.mpr rfl,
    _, hcomment, rfl⟩

/-- A comment is read as its exact text, if it is there and not empty. -/
def CommentOf (comment : Option String) (read : Option (List Char)) : Prop :=
  ∀ d, read = some d ↔ ∃ text, comment = some text ∧ text ≠ "" ∧ d = text.toList

theorem commentOf_nonEmpty? (comment : Option String) :
    CommentOf comment ((nonEmpty? comment).map String.toList) := by
  intro d
  simp only [Option.map_eq_some_iff, nonEmpty?_eq_some_iff, and_assoc, eq_comm (a := d)]

/-- A column is read as its raw name, the type it is defined with, a default if its text is
not empty and reads as one expression, and then as the text of that expression, and its
comment. -/
structure ReadsAs (c : Column) (read : ColumnText) : Prop where
  name : read.name = c.columnName.toList
  type : read.type = (ddlType c).toList
  default : ∀ d, read.default = some d ↔
    ∃ text e, c.defaultValue = some text ∧ text ≠ "" ∧
      Sql.readExpression .clickHouse text = .ok e ∧ d = e.text.toList
  comment : CommentOf c.comment read.comment

theorem readsAs_columnText (c : Column) : ReadsAs c (columnText c) where
  name := rfl
  type := by rw [ddlType, String.toList_ofList]; rfl
  default _ := defaultText?_eq_some_iff
  comment := commentOf_nonEmpty? c.comment

/-- **The definition of a table is read back.** Without columns nothing is written. With
columns there is one definition, behind a statement that drops the same table if that is
asked for, and a reader who minds nothing but quotes and brackets finds in it the table,
each column in order, and the comment of the table. -/
theorem tableDdl_reads_back (t : Table) (drop : Bool) :
    tableDdl t [] drop = [] ∧
      ∀ cs, cs ≠ [] → '\x60' ∉ t.tableName.toList → (∀ c ∈ cs, Delimited c) →
        ∃ create read,
          tableDdl t cs drop =
            (if drop then ["DROP TABLE IF EXISTS " ++ quoting.quoteQualified t.tableName]
              else []) ++ [create] ∧
          readDefinition? create.toList = some read ∧
          read.table = (quoting.quoteQualified t.tableName).toList ∧
          List.Forall₂ ReadsAs cs read.columns ∧ CommentOf t.comment read.comment := by
  refine ⟨rfl, fun cs hne htable hcs => ⟨createTable t cs, _, ?_,
    readDefinition?_createTable htable hne hcs, ?_, ?_, commentOf_nonEmpty? t.comment⟩⟩
  · rw [tableDdl, if_neg (by simpa using hne)]
    cases drop with
    | false => rfl
    | true => rfl
  · rw [Quoting.quoteQualified, String.toList_ofList]
  · rw [List.forall₂_map_right_iff]
    exact List.forall₂_same.mpr fun c _ => readsAs_columnText c

theorem exists_of_text {sql text : String}
    (h : (Sql.readExpression .clickHouse sql).toOption.map Sql.Expr.text = some text) :
    ∃ e, Sql.readExpression .clickHouse sql = .ok e ∧ e.text = text := by
  cases he : Sql.readExpression .clickHouse sql with
  | error e => simp [he, Except.toOption] at h
  | ok e =>
    rw [he] at h
    exact ⟨e, rfl, Option.some.inj h⟩

theorem ne_of_text {sql : String}
    (h : (Sql.readExpression .clickHouse sql).toOption.map Sql.Expr.text = none) (e : Sql.Expr) :
    Sql.readExpression .clickHouse sql ≠ .ok e := by
  intro he
  rw [he] at h
  cases h

/-- Marks, commas and keywords in a name, a default and a comment, and a type that takes the
wrapper inside its own. The second default is no single expression. -/
theorem tableDdl_reads_back_of_marks :
    ∃ create read c d,
      tableDdl ⟨"a.b", some "it's", none, none, none⟩
        [⟨"t", "c\x60)", "LowCardinality(String)", some ", d COMMENT 'x'", true, false,
            some "concat( 'a,)', now( ) )", false⟩,
          ⟨"t", "d", "Enum8('[' = 1)", none, false, false, some "1 2", false⟩] true =
        ["DROP TABLE IF EXISTS \x60a\x60.\x60b\x60", create] ∧
      readDefinition? create.toList = some read ∧ read.columns = [c, d] ∧
      c.name = "c\x60)".toList ∧ c.type = "LowCardinality(Nullable(String))".toList ∧
      c.default = some "concat('a,)', now())".toList ∧
      c.comment = some ", d COMMENT 'x'".toList ∧ d.default = none ∧
      read.comment = some "it's".toList := by
  obtain ⟨e, he, htext⟩ : ∃ e, Sql.readExpression .clickHouse "concat( 'a,)', now( ) )" = .ok e ∧
      e.text = "concat('a,)', now())" :=
    exists_of_text (by decide +kernel)
  have htwo : ∀ e, Sql.readExpression .clickHouse "1 2" ≠ .ok e := ne_of_text (by decide +kernel)
  obtain ⟨create, read, hddl, hread, -, hcolumns, hcomment⟩ :=
    (tableDdl_reads_back ⟨"a.b", some "it's", none, none, none⟩ true).2
      [⟨"t", "c\x60)", "LowCardinality(String)", some ", d COMMENT 'x'", true, false,
          some "concat( 'a,)', now( ) )", false⟩,
        ⟨"t", "d", "Enum8('[' = 1)", none, false, false, some "1 2", false⟩]
      (by decide) (by decide) (by
        rw [List.forall_mem_cons, List.forall_mem_singleton]
        refine ⟨⟨by decide, by decide, ?_⟩, ⟨by decide, by decide, ?_⟩⟩
        · rintro _ e' ⟨⟩ he'
          obtain rfl : e = e' := Except.ok.inj (he.symm.trans he')
          rw [htext]
          decide
        · rintro _ e' ⟨⟩ he'
          exact absurd he' (htwo e'))
  obtain ⟨c, _, hc, hrest, hcd⟩ := List.forall₂_cons_left_iff.mp hcolumns
  obtain ⟨d, _, hd, hnil, rfl⟩ := List.forall₂_cons_left_iff.mp hrest
  rw [List.forall₂_nil_left_iff] at hnil
  subst hnil
  refine ⟨create, read, c, d, hddl, hread, hcd, hc.name, ?_,
    (hc.default _).mpr ⟨_, e, rfl, by decide, he, by rw [htext]⟩,
    (hc.comment _).mpr ⟨_, rfl, by decide, rfl⟩, ?_, (hcomment _).mpr ⟨_, rfl, by decide, rfl⟩⟩
  · rw [hc.type]
    decide
  · refine Option.eq_none_iff_forall_ne_some.mpr fun text htext => ?_
    obtain ⟨_, e', ⟨⟩, -, he', -⟩ := (hd.default text).mp htext
    exact htwo e' he'

end SqlDialect.ClickHouse
