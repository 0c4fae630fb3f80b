import SqlDialect.ClickHouse.Generator
import SqlDialect.Proofs.Cell.Literal
import SqlDialect.Proofs.Identifier.Safety
import SqlDialect.Proofs.Text.TopLevel
import SqlDialect.Proofs.Traversal
/-!
# Inserts read back

`readInsert?` reads the text of an insert with nothing but quotes and brackets: the
table, the names of the columns, and for each row its cells. `readInsert_insert`:
what is read is what was written, cell by cell, so no content of a cell changes how
many rows or cells there are or what another cell is.

Everything rests on two facts. A quoted identifier and a literal pass the reader
from any place outside quotes to the same place (`pass?_quoteChars`,
`pass?_literal`), the latter by induction over the term that the literal is.
And a list of such parts is read item by item (`items_intercalate`).
-/

namespace SqlDialect.ClickHouse

open Text (Quotes Place)
open Text.Quotes

/-- The quotes around identifiers and around texts. -/
def quotes : Quotes := ⟨['\x60', '\''], true⟩

/-- What an insert is read as. -/
structure InsertText where
  table : List Char
  columns : List (List Char)
  rows : List (List (List Char))

/-- The cells of a row between parentheses. -/
def readRow? (s : List Char) : Option (List (List Char)) := do
  let s ← Text.stripPrefix? ['('] s
  let (cells, rest) ← quotes.upTo? ')' (.outside 0) s
  if rest = [] then some (quotes.items cells) else none

def readInsert? (s : List Char) : Option InsertText := do
  let s ← Text.stripPrefix? "INSERT INTO ".toList s
  let (table, s) ← quotes.upTo? ' ' (.outside 0) s
  let s ← Text.stripPrefix? ['('] s
  let (columns, s) ← quotes.upTo? ')' (.outside 0) s
  let s ← Text.stripPrefix? " VALUES ".toList s
  let rows ← (quotes.items s).mapM readRow?
  some ⟨table, quotes.items columns, rows⟩

variable {stops : List Char}

/-! ### Identifiers pass -/

section Identifiers

variable {k : Quotes} (hmark : '\x60' ∈ k.marks) (hb : k.backslash = true)
  (hstop : '\x60' ∉ stops)

include hmark hb hstop

/-- Any reader that knows the quotes of identifiers passes one. -/
theorem pass?_wrap (n : Nat) (s : List Char) :
    k.pass? stops (.outside n) (quoting.wrap s) = some (.outside n) := by
  obtain ⟨body, hbody, content, hcontent⟩ := Quoting.enclosed_wrap (q := quoting) (by decide) s
  have hopen : k.next (.outside n) quoting.opening = .inside quoting.rule.closing n := if_pos hmark
  rw [hbody, pass?, if_neg fun h => hstop h.2, hopen]
  exact pass?_quoted (r := quoting.rule) hb.symm hmark (by decide) hstop n hcontent

theorem pass?_quoteChars (n : Nat) {s : List Char} (hs : quoting.isQuoted s = false) :
    k.pass? stops (.outside n) (quoting.quoteChars s) = some (.outside n) := by
  rw [Quoting.quoteChars_eq_wrap hs rfl]
  exact pass?_wrap hmark hb hstop n s

end Identifiers

/-- Without quotes in a name, its pieces have none. -/
theorem not_mem_of_mem_split {s : List Char} (hs : '\x60' ∉ s) :
    ∀ piece ∈ quoting.split s, '\x60' ∉ piece := by
  induction s with
  | nil => simp [Quoting.split]
  | cons c s ih =>
    rw [List.mem_cons, not_or] at hs
    have ih := ih hs.2
    rw [Quoting.split, if_neg fun h => hs.1 h.symm]
    split
    · exact List.forall_mem_cons.mpr ⟨List.not_mem_nil, ih⟩
    · unfold Quoting.extend
      split
      · simpa using hs.1
      · rename_i piece pieces hp
        rw [hp, List.forall_mem_cons] at ih
        refine List.forall_mem_cons.mpr ⟨?_, ih.2⟩
        rw [List.mem_cons, not_or]
        exact ⟨hs.1, ih.1⟩

theorem pass?_quoteQualifiedChars {k : Quotes} (hmark : '\x60' ∈ k.marks)
    (hb : k.backslash = true) (hstop : '\x60' ∉ stops) (hdot : k.Plain stops '.') {s : List Char}
    (hs : '\x60' ∉ s) :
    k.pass? stops (.outside 0) (quoting.quoteQualifiedChars s) = some (.outside 0) := by
  rw [Quoting.quoteQualifiedChars, Quoting.isQuoted_eq_false_of_not_mem hs, if_neg (by decide)]
  refine pass?_intercalate (pass?_plain (List.forall_mem_singleton.mpr hdot) 0) ?_
  rw [List.forall_mem_map]
  intro piece hpiece
  exact pass?_quoteChars hmark hb hstop 0
    (Quoting.isQuoted_eq_false_of_not_mem (not_mem_of_mem_split hs piece hpiece))

/-! ### Literals pass -/

/-- What ends a cell or a row. -/
def ends : List Char := [',', '(', ')']

theorem plain_of_isAtomChar {c : Char} (hc : LiteralStyle.isAtomChar c = true) :
    quotes.Plain ends c := by
  have hne {d : Char} (hd : LiteralStyle.isAtomChar d = false) : c ≠ d := by
    rintro rfl
    rw [hc] at hd
    cases hd
  have h1 : c ∉ ['\x60', '\''] := by
    simp only [List.mem_cons, List.not_mem_nil, or_false, not_or]
    exact ⟨hne (by decide), hne (by decide)⟩
  have h2 : c ∉ ['(', '[', ')', ']'] := by
    simp only [List.mem_cons, List.not_mem_nil, or_false, not_or]
    exact ⟨hne (by decide), hne (by decide), hne (by decide), hne (by decide)⟩
  have h3 : c ∉ ends := by
    simp only [ends, List.mem_cons, List.not_mem_nil, or_false, not_or]
    exact ⟨hne (by decide), hne (by decide), hne (by decide)⟩
  exact ⟨h1, h2, h3⟩

theorem plain_of_mem_words {w : List Char} (hw : w ∈ literals.words) :
    ∀ c ∈ w, quotes.Plain ends c := by
  have hwords : ∀ w ∈ literals.words, w.all LiteralStyle.isAtomChar = true := by decide
  exact fun c hc => plain_of_isAtomChar (List.all_eq_true.mp (hwords w hw) c hc)

theorem pass?_word {w : List Char}
    (hw : w = "NULL".toList ∨ Text.Numeral w ∨ w ∈ literals.words) (n : Nat) :
    quotes.pass? ends (.outside n) w = some (.outside n) := by
  have hnull : "NULL".toList.all LiteralStyle.isAtomChar = true := by decide
  rcases hw with rfl | hw | hw
  · exact pass?_plain (fun c hc => plain_of_isAtomChar (List.all_eq_true.mp hnull c hc)) n
  · exact pass?_plain (fun c hc => plain_of_isAtomChar (Term.isAtomChar_of_numeral hw c hc)) n
  · exact pass?_plain (plain_of_mem_words hw) n

/-- **Every term passes**, within any number of brackets. -/
theorem pass?_render {t : Term} (ht : t.WellFormed literals) (n : Nat) :
    quotes.pass? ends (.outside n) t.render = some (.outside n) := by
  rw [pass?_eq_scan?]
  refine Term.scan?_render id quotes.knownBy_next rfl (by decide) (by decide) ?_ ?_ ?_ ?_ ht n
  · intro w hw n
    rw [← pass?_eq_scan?]
    exact pass?_word hw n
  · simp [Text.scan?, next, quotes, ends]
  · simp [Text.scan?, next, quotes]
  · simp [Text.scan?, next, quotes]

theorem pass?_literal (category : Category) (c : Cell) (n : Nat) :
    quotes.pass? ends (.outside n) (c.literal category literals).toList = some (.outside n) := by
  obtain ⟨t, ht, hrender, -⟩ := Cell.writtenAs_literal category literals c
  rw [hrender]
  exact pass?_render ht n

/-! ### The statements of an insert -/

theorem firstMisfit?_eq_none_iff {columns index : Nat} {rows : List (List Cell)} :
    firstMisfit? columns index rows = none ↔ ∀ row ∈ rows, row.length = columns := by
  induction rows generalizing index with
  | nil => simp [firstMisfit?]
  | cons row rows ih =>
    rw [firstMisfit?, List.forall_mem_cons]
    split
    · rename_i h
      rw [ih, and_iff_right h]
    · rename_i h
      simp [h]

/-- What is executed before the rows are inserted. -/
def preparation (table : String) (cs : List Column) (ts : List NativeType)
    (rows : List (List Cell)) : DuplicateStrategy → List String
  | .update => makeRoom table cs ts rows
  | _ => []

/-- **When an insert succeeds**, and with which statements. -/
theorem insert_eq_ok_iff {table : String} {cs : List Column} {rows : List (List Cell)}
    {strategy : DuplicateStrategy} {statements : List String} :
    insert table cs rows strategy = .ok statements ↔
      rows = [] ∧ statements = [] ∨
      rows ≠ [] ∧ cs ≠ [] ∧ (∀ row ∈ rows, row.length = cs.length) ∧
        ∃ ts, cs.mapM vocabulary.resolve = .ok ts ∧
          statements = preparation table cs ts rows strategy ++ [insertRows table cs ts rows] := by
  unfold insert
  by_cases hrows : rows = []
  · subst hrows
    simp [eq_comm]
  rw [List.isEmpty_eq_false_iff.mpr hrows, if_neg Bool.false_ne_true]
  by_cases hcs : cs = []
  · subst hcs
    simp [hrows]
  rw [List.isEmpty_eq_false_iff.mpr hcs, if_neg Bool.false_ne_true]
  cases hts : cs.mapM vocabulary.resolve with
  | error e => simp [bind, Except.bind, hrows]
  | ok ts =>
    have hmisfit := @firstMisfit?_eq_none_iff cs.length 0 rows
    simp only [bind, Except.bind]
    split
    · rename_i e he
      rw [he] at hmisfit
      simp only [reduceCtorEq, false_iff] at hmisfit
      simp [hrows, hmisfit]
    · rename_i he
      have hwidth := hmisfit.mp he
      rw [or_iff_right fun h => hrows h.1]
      constructor
      · intro h
        refine ⟨hrows, hcs, hwidth, ts, rfl, ?_⟩
        cases strategy <;> (cases h; rfl)
      · rintro ⟨-, -, -, ts', hts', rfl⟩
        cases hts'
        cases strategy <;> rfl

/-- When an insert of rows succeeds. -/
theorem insert_eq_ok_iff_of_ne_nil {table : String} {cs : List Column} {rows : List (List Cell)}
    {strategy : DuplicateStrategy} {statements : List String} (hrows : rows ≠ []) :
    insert table cs rows strategy = .ok statements ↔
      cs ≠ [] ∧ (∀ row ∈ rows, row.length = cs.length) ∧
        ∃ ts, cs.mapM vocabulary.resolve = .ok ts ∧
          statements = preparation table cs ts rows strategy ++ [insertRows table cs ts rows] := by
  rw [insert_eq_ok_iff, or_iff_right fun h => hrows h.1, and_iff_right hrows]

/-! ### Reading an insert -/

/-- A list of parts that pass, read up to the parenthesis behind it. -/
theorem upTo?_intercalate {ps : List (List Char)}
    (hps : ∀ p ∈ ps, quotes.pass? [')'] (.outside 0) p = some (.outside 0)) (rest : List Char) :
    quotes.upTo? ')' (.outside 0) ([',', ' '].intercalate ps ++ ')' :: rest) =
      some ([',', ' '].intercalate ps, rest) := by
  have hcomma : quotes.pass? [')'] (.outside 0) [',', ' '] = some (.outside 0) := by decide
  exact upTo?_of_pass (List.mem_cons_self ..) (pass?_intercalate hcomma hps) rest

theorem pass?_rowLiterals (ts : List NativeType) (row : List Cell) (n : Nat) :
    ∀ s ∈ (rowLiterals ts row).map String.toList,
      quotes.pass? ends (.outside n) s = some (.outside n) := by
  rw [rowLiterals, ← List.map_uncurry_zip_eq_zipWith, List.map_map, List.forall_mem_map]
  rintro ⟨type, value⟩ -
  exact pass?_literal type.category value n

theorem toList_rowText (ts : List NativeType) (row : List Cell) :
    (rowText ts row).toList =
      '(' :: ([',', ' '].intercalate ((rowLiterals ts row).map String.toList) ++ [')']) := by
  simp [rowText]

/-- No comma of a row stands outside its parentheses. -/
theorem pass?_rowText (ts : List NativeType) (row : List Cell) :
    quotes.pass? [','] (.outside 0) (rowText ts row).toList = some (.outside 0) := by
  have hcomma : quotes.pass? ends (.outside 1) [',', ' '] = some (.outside 1) := by decide
  have hcells := pass?_intercalate hcomma (pass?_rowLiterals ts row 1)
  rw [toList_rowText, pass?, if_neg (by decide)]
  exact pass?_append_of (pass?_mono (by simp [ends]) hcells) (by decide)

/-- A list of cells between parentheses is read back cell by cell. -/
theorem readRow?_intercalate {ps : List (List Char)} (hne : ps ≠ [])
    (hps : ∀ p ∈ ps, quotes.pass? ends (.outside 0) p = some (.outside 0)) :
    readRow? ('(' :: ([',', ' '].intercalate ps ++ [')'])) = some ps := by
  have hcontent := upTo?_intercalate (fun p hp => pass?_mono (by simp [ends]) (hps p hp)) []
  have hitems := items_intercalate (k := quotes) (by decide) hne
    fun p hp => pass?_mono (by simp [ends]) (hps p hp)
  simp only [readRow?, Option.bind_eq_bind, Option.bind_eq_some_iff]
  refine ⟨_, Text.stripPrefix?_eq_some_iff.mpr rfl, _, hcontent, ?_⟩
  rw [hitems]
  rfl

/-- **A row is read back** cell by cell. -/
theorem readRow?_rowText {ts : List NativeType} {row : List Cell} (hne : rowLiterals ts row ≠ []) :
    readRow? (rowText ts row).toList = some ((rowLiterals ts row).map String.toList) := by
  rw [toList_rowText]
  exact readRow?_intercalate (mt List.map_eq_nil_iff.mp hne) (pass?_rowLiterals ts row 0)

theorem mapM_readRow? {ts : List NativeType} {rows : List (List Cell)}
    (hne : ∀ row ∈ rows, rowLiterals ts row ≠ []) :
    (rows.map fun row => (rowText ts row).toList).mapM readRow? =
      some (rows.map fun row => (rowLiterals ts row).map String.toList) :=
  mapM_map_eq_some fun row hrow => readRow?_rowText (hne row hrow)

/-- The text of an insert, part by part. -/
theorem toList_insertRows (table : String) (cs : List Column) (ts : List NativeType)
    (rows : List (List Cell)) :
    (insertRows table cs ts rows).toList =
      "INSERT INTO ".toList ++ (quoting.quoteQualifiedChars table.toList ++ ' ' ::
        (['('] ++
          ([',', ' '].intercalate (cs.map fun c => quoting.quoteChars c.columnName.toList) ++
          ')' :: (" VALUES ".toList ++
            [',', ' '].intercalate (rows.map fun row => (rowText ts row).toList))))) := by
  delta insertRows
  simp [Quoting.quoteQualified, Quoting.quote, Function.comp_def]

theorem readInsert?_insertRows {table : String} {cs : List Column} {ts : List NativeType}
    {rows : List (List Cell)} (htable : '\x60' ∉ table.toList) (hcs : cs ≠ [])
    (hnames : ∀ c ∈ cs, quoting.isQuoted c.columnName.toList = false) (hrows : rows ≠ [])
    (hne : ∀ row ∈ rows, rowLiterals ts row ≠ []) :
    readInsert? (insertRows table cs ts rows).toList =
      some ⟨quoting.quoteQualifiedChars table.toList,
        cs.map fun c => quoting.quoteChars c.columnName.toList,
        rows.map fun row => (rowLiterals ts row).map String.toList⟩ := by
  have hname {stops : List Char} (hstop : '\x60' ∉ stops) :
      ∀ s ∈ cs.map fun c => quoting.quoteChars c.columnName.toList,
        quotes.pass? stops (.outside 0) s = some (.outside 0) :=
    List.forall_mem_map.mpr fun c hc =>
      pass?_quoteChars (by decide) rfl hstop 0 (hnames c hc)
  have hrow : ∀ s ∈ rows.map fun row => (rowText ts row).toList,
      quotes.pass? [','] (.outside 0) s = some (.outside 0) :=
    List.forall_mem_map.mpr fun row _ => pass?_rowText ts row
  have htablePass : quotes.pass? [' '] (.outside 0) (quoting.quoteQualifiedChars table.toList) =
      some (.outside 0) :=
    pass?_quoteQualifiedChars (by decide) rfl (by decide) (by decide) htable
  have hcolumns := items_intercalate (k := quotes) (by decide)
    (mt List.map_eq_nil_iff.mp hcs) (hname (by decide))
  have hitems := items_intercalate (k := quotes) (by decide)
    (mt List.map_eq_nil_iff.mp hrows) hrow
  rw [toList_insertRows]
  simp only [readInsert?, Option.bind_eq_bind, Option.bind_eq_some_iff]
  refine ⟨_, Text.stripPrefix?_eq_some_iff.mpr rfl,
    _, upTo?_of_pass (List.mem_cons_self ..) htablePass _,
    _, Text.stripPrefix?_eq_some_iff.mpr rfl,
    _, upTo?_intercalate (hname (by decide)) _,
    _, Text.stripPrefix?_eq_some_iff.mpr rfl, ?_⟩
  rw [hitems]
  exact ⟨_, mapM_readRow? hne, by rw [hcolumns]⟩

/-- The cells of a row, each the literal of its column and its value. -/
def CellsOf (cs : List Column) (row : List Cell) (cells : List (List Char)) : Prop :=
  cells.length = cs.length ∧
    ∀ (j : Nat) (c : Column) (value : Cell), cs[j]? = some c → row[j]? = some value →
      ∃ text, vocabulary.literal c value = .ok text ∧ cells[j]? = some text.toList

theorem CellsOf.ne_nil {cs : List Column} {row : List Cell} {cells : List (List Char)}
    (h : CellsOf cs row cells) (hcs : cs ≠ []) : cells ≠ [] := by
  rintro rfl
  exact hcs (List.length_eq_zero_iff.mp h.1.symm)

theorem cellsOf_rowLiterals {cs : List Column} {ts : List NativeType} {row : List Cell}
    (hts : cs.mapM vocabulary.resolve = .ok ts) (hrow : row.length = cs.length) :
    CellsOf cs row ((rowLiterals ts row).map String.toList) := by
  obtain ⟨hlen, hresolve⟩ := List.forall₂_iff_get.mp (mapM_eq_ok_iff.mp hts)
  constructor
  · rw [List.length_map, rowLiterals, List.length_zipWith]
    omega
  · intro j c value hc hvalue
    obtain ⟨hj, rfl⟩ := List.getElem?_eq_some_iff.mp hc
    have htype : ts[j]? = some ts[j] := List.getElem?_eq_getElem (hlen ▸ hj)
    refine ⟨value.literal ts[j].category literals, ?_, ?_⟩
    · rw [Vocabulary.literal]
      have h : vocabulary.resolve cs[j] = .ok ts[j] := hresolve j hj (hlen ▸ hj)
      rw [h]
      rfl
    · rw [List.getElem?_map, rowLiterals, List.getElem?_zipWith', htype, hvalue]
      rfl

/-- **An insert is read back as what was to be inserted.** With any strategy, the
last statement is an insert, and a reader who minds nothing but quotes and brackets
finds in it the table, the columns, and for each row the literal of each value. -/
theorem readInsert_insert {table : String} {cs : List Column} {rows : List (List Cell)}
    (strategy : DuplicateStrategy) (htable : '\x60' ∉ table.toList) (hcs : cs ≠ [])
    (hnames : ∀ c ∈ cs, quoting.isQuoted c.columnName.toList = false)
    (htypes : ∀ c ∈ cs, ∃ type, vocabulary.resolve c = .ok type) (hrows : rows ≠ [])
    (hwidth : ∀ row ∈ rows, row.length = cs.length) :
    ∃ before statement read, insert table cs rows strategy = .ok (before ++ [statement]) ∧
      (strategy ≠ .update → before = []) ∧ readInsert? statement.toList = some read ∧
      read.table = (quoting.quoteQualified table).toList ∧
      (read.columns = cs.map fun c => (quoting.quote c.columnName).toList) ∧
      List.Forall₂ (CellsOf cs) rows read.rows := by
  obtain ⟨ts, hts⟩ := exists_mapM_eq_ok htypes
  have hcells : ∀ row ∈ rows, CellsOf cs row ((rowLiterals ts row).map String.toList) :=
    fun row hrow => cellsOf_rowLiterals hts (hwidth row hrow)
  have hne : ∀ row ∈ rows, rowLiterals ts row ≠ [] :=
    fun row hrow hnil => (hcells row hrow).ne_nil hcs (by rw [hnil, List.map_nil])
  refine ⟨preparation table cs ts rows strategy, insertRows table cs ts rows, _,
    insert_eq_ok_iff.mpr (Or.inr ⟨hrows, hcs, hwidth, ts, hts, rfl⟩), ?_,
    readInsert?_insertRows htable hcs hnames hrows hne, ?_, ?_, ?_⟩
  · intro hstrategy
    cases strategy with
    | none => rfl
    | ignore => rfl
    | update => exact absurd rfl hstrategy
  · rw [Quoting.quoteQualified, String.toList_ofList]
  · simp only [Quoting.quote, String.toList_ofList]
  · rw [List.forall₂_map_right_iff]
    exact List.forall₂_same.mpr hcells

theorem resolve_of_normalizeType {c : Column} {base : String} {type : NativeType}
    (hbase : (normalizeType c.dataType).1 = base) (htype : types.resolve base = .ok type) :
    vocabulary.resolve c = .ok type := by
  rw [vocabulary]
  simp only [hbase, htype]

/-- A text that looks like the end of its row, in a list next to a NULL. -/
theorem readInsert_insert_of_brackets :
    ∃ before statement read, insert "a.b" [⟨"t", "c)", "String", none, false, false, none, false⟩]
        [[.array [.string "'), (", .null]]] .none = .ok (before ++ [statement]) ∧
      readInsert? statement.toList = some read ∧ read.columns = ["\x60c)\x60".toList] ∧
      read.rows.length = 1 := by
  have htype : vocabulary.resolve ⟨"t", "c)", "String", none, false, false, none, false⟩ =
      .ok ⟨"String", .string, .varchar⟩ :=
    @resolve_of_normalizeType _ "String" _ (by decide +kernel) rfl
  obtain ⟨before, statement, read, hinsert, -, hread, -, hcolumns, hrows⟩ :=
    @readInsert_insert "a.b" [⟨"t", "c)", "String", none, false, false, none, false⟩]
      [[.array [.string "'), (", .null]]] .none (by decide) (by decide) (by decide)
      (List.forall_mem_singleton.mpr ⟨_, htype⟩) (by decide) (by simp)
  refine ⟨before, statement, read, hinsert, hread, ?_, hrows.length_eq.symm⟩
  rw [hcolumns]
  decide

end SqlDialect.ClickHouse
