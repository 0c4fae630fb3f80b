import SqlDialect.Proofs.ClickHouse.KeyList
import SqlDialect.Proofs.Text.Conjunction
/-!
# Filters keep every condition

The condition of a filter is taken apart at its words `AND` outside quotes. What is found is
one test for each pair of the filter, in order (`filter_keeps_conditions`): NULL is tested for with
`IS NULL`, any other value is compared with its literal. So a row meets the condition exactly
if it agrees with every pair, and each statement that changes or removes rows carries this
same condition.

A column name between quotes and a literal are never cut, whatever they hold
(`Regular.uncut_quoteChars`, `Regular.uncut_literal`): outside its quotes a literal has
numbers, a few words, brackets and commas, and none of these has a letter `D`.
-/

namespace SqlDialect

namespace Vocabulary

variable {v : Vocabulary}

/-- ClickHouse's vocabulary, and those of standard SQL that put every identifier between double
quotes or between backquotes, with any types. -/
inductive ClickHouseOrAnsi : Vocabulary → Prop
  | clickHouse : ClickHouseOrAnsi ClickHouse.vocabulary
  | ansi {mark : Char} (hmark : mark = '"' ∨ mark = '\x60') (types : TypeTable)
      (resolve : Column → Except DbError NativeType) :
      ClickHouseOrAnsi ⟨⟨mark, mark, .always, false⟩, .ansi, types, resolve⟩

/-- The quotes around identifiers and around texts. -/
def quotes (v : Vocabulary) : Text.Quotes :=
  ⟨[v.quoting.closing, '\''], v.quoting.backslashEscapes⟩

/-- The parts of a condition between the words `AND` outside quotes. -/
def conjuncts (v : Vocabulary) (text : String) : List String :=
  (v.quotes.conjuncts (.outside 0) text.toList).map String.ofList

/-- The test for one pair of a filter: `IS NULL` exactly for NULL, for any other value a
comparison with its literal. -/
structure IsConjunct (v : Vocabulary) (p : Column × Cell) (s : String) : Prop where
  isNull_iff : s = v.quoting.quote p.1.columnName ++ " IS NULL" ↔ p.2 = .null
  eq_literal : p.2 ≠ .null → ∃ literal, v.literal p.1 p.2 = .ok literal ∧
    s = v.quoting.quote p.1.columnName ++ " = " ++ literal

/-- What a test asks of a row: that the column of this name is NULL, or equal to a literal. -/
def readTest? (v : Vocabulary) (s : String) : Option (String × Option String) := do
  let s ← Text.stripPrefix? [v.quoting.opening] s.toList
  let (name, rest) ← v.quoting.rule.read? s
  if rest = " IS NULL".toList then return (String.ofList name, none)
  let literal ← Text.stripPrefix? " = ".toList rest
  return (String.ofList name, some (String.ofList literal))

/-- A row of which each test `holds` that a reader finds in the condition. -/
def Meets (v : Vocabulary) (holds : String → Option String → Prop) (text : String) : Prop :=
  ∀ s ∈ v.conjuncts text, ∃ test, v.readTest? s = some test ∧ holds test.1 test.2

/-- A row that has the value of a pair, as far as `holds` can tell. -/
inductive Agrees (v : Vocabulary) (holds : String → Option String → Prop) : Column × Cell → Prop
  | null {c : Column} : holds c.columnName none → Agrees v holds (c, .null)
  | equal {c : Column} {value : Cell} {literal : String} : value ≠ .null →
      v.literal c value = .ok literal → holds c.columnName (some literal) →
      Agrees v holds (c, value)

/-- The statements that change or remove rows: for each what makes it of a filter, and the
text in front of its condition. -/
inductive Mutation : Vocabulary → (Filter → Except DbError String) → Except DbError String → Prop
  | update {v : Vocabulary} (table : String) (cs : List Column) (values : List Cell) :
      Mutation v (v.update table cs values) ((v.assignments cs values).map fun parts =>
        "UPDATE " ++ v.quoting.quoteQualified table ++ " SET " ++ parts)
  | delete {v : Vocabulary} (table : String) :
      Mutation v (v.delete table) (.ok ("DELETE FROM " ++ v.quoting.quoteQualified table))
  | alterUpdate (table : String) (cs : List Column) (values : List Cell) :
      Mutation ClickHouse.vocabulary (ClickHouse.update table cs values)
        ((ClickHouse.vocabulary.assignments cs values).map fun parts =>
          "ALTER TABLE " ++ ClickHouse.quoting.quoteQualified table ++ " UPDATE " ++ parts)
  | alterDelete (table : String) : Mutation ClickHouse.vocabulary (ClickHouse.delete table)
      (.ok ("ALTER TABLE " ++ ClickHouse.quoting.quoteQualified table ++ " DELETE"))

/-! ### When there is a condition -/

section Outcome

variable {c : Column} {value : Cell} {s : String} {e : DbError}

theorem condition_of_ne_null (h : value ≠ .null) :
    v.condition c value = v.assignment c value := by
  rw [condition, if_neg]
  cases value with
  | null => exact absurd rfl h
  | _ => exact Bool.false_ne_true

theorem condition_eq_error_iff :
    v.condition c value = .error e ↔ value ≠ .null ∧ v.resolve c = .error e := by
  by_cases h : value = .null
  · subst h
    exact iff_of_false (fun he => nomatch he) fun he => he.1 rfl
  · rw [condition_of_ne_null h, assignment, map_eq_error_iff, literal, map_eq_error_iff,
      and_iff_right h]

theorem exists_condition_eq_ok_iff : (∃ s, v.condition c value = .ok s) ↔
    (value ≠ .null → ∃ type, v.resolve c = .ok type) := by
  by_cases h : value = .null
  · subst h
    exact iff_of_true ⟨_, rfl⟩ fun hne => absurd rfl hne
  · rw [condition_of_ne_null h, assignment, literal]
    cases v.resolve c with
    | error e => simp [Except.map, h]
    | ok type => simp [Except.map]

/-- What is written for a pair is its test. -/
theorem isConjunct_of_condition (h : v.condition c value = .ok s) :
    v.IsConjunct (c, value) s := by
  by_cases hnull : value = .null
  · subst hnull
    cases h
    exact ⟨iff_of_true rfl rfl, fun hne => absurd rfl hne⟩
  · rw [condition_of_ne_null hnull, assignment] at h
    cases hliteral : v.literal c value with
    | error e =>
      rw [hliteral] at h
      cases h
    | ok text =>
      rw [hliteral] at h
      cases h
      refine ⟨iff_of_false ?_ hnull, fun _ => ⟨text, hliteral, rfl⟩⟩
      intro he
      have hlist := congrArg String.toList he
      simp at hlist

variable {f : Filter} {text : String}

theorem filter_eq_map (hf : f ≠ []) : v.filter f =
    (f.mapM fun p => v.condition p.1 p.2).map fun parts => some (" AND ".intercalate parts) := by
  rw [filter, List.isEmpty_eq_false_iff.mpr hf, if_neg Bool.false_ne_true]
  rfl

theorem filter_eq_ok_none_iff : v.filter f = .ok none ↔ f = [] := by
  by_cases hf : f = []
  · subst hf
    exact iff_of_true rfl rfl
  · rw [filter_eq_map hf]
    cases f.mapM fun p => v.condition p.1 p.2 with
    | error e => exact iff_of_false (fun h => nomatch h) hf
    | ok parts => exact iff_of_false (fun h => nomatch h) hf

theorem filter_eq_ok_some_iff : v.filter f = .ok (some text) ↔ f ≠ [] ∧
    ∃ parts, f.mapM (fun p => v.condition p.1 p.2) = .ok parts ∧
      text = " AND ".intercalate parts := by
  by_cases hf : f = []
  · subst hf
    exact iff_of_false (fun h => nomatch h) fun h => h.1 rfl
  · rw [filter_eq_map hf, and_iff_right hf]
    cases f.mapM fun p => v.condition p.1 p.2 with
    | error e => simp [Except.map]
    | ok parts => simp [Except.map, eq_comm]

theorem filter_eq_error_iff : v.filter f = .error e ↔ ∃ before p after,
    f = before ++ p :: after ∧
      (∀ q ∈ before, q.2 ≠ .null → ∃ type, v.resolve q.1 = .ok type) ∧
      p.2 ≠ .null ∧ v.resolve p.1 = .error e := by
  by_cases hf : f = []
  · subst hf
    refine iff_of_false (fun h => nomatch h) ?_
    rintro ⟨before, p, after, h, -⟩
    simp at h
  · rw [filter_eq_map hf, map_eq_error_iff, mapM_eq_error_iff_first]
    simp only [exists_condition_eq_ok_iff, condition_eq_error_iff]

theorem exists_filter_eq_error_iff : (∃ e, v.filter f = .error e) ↔
    ∃ p ∈ f, p.2 ≠ .null ∧ ∃ e, v.resolve p.1 = .error e := by
  constructor
  · rintro ⟨e, he⟩
    obtain ⟨before, p, after, rfl, -, hp, hresolve⟩ := filter_eq_error_iff.mp he
    exact ⟨p, by simp, hp, e, hresolve⟩
  · rintro ⟨p, hmem, hp, e, hresolve⟩
    have hf : f ≠ [] := List.ne_nil_of_mem hmem
    cases hparts : f.mapM fun p => v.condition p.1 p.2 with
    | error e' => exact ⟨e', by rw [filter_eq_map hf, map_eq_error_iff, hparts]⟩
    | ok parts =>
      -- each pair would have a test
      obtain ⟨s, hs⟩ := forall_mem_of_mapM_eq_ok hparts p hmem
      rw [condition_eq_error_iff.mpr ⟨hp, hresolve⟩] at hs
      cases hs

theorem exists_filter_eq_ok_some (hf : f ≠ [])
    (hknown : ∀ p ∈ f, p.2 ≠ .null → ∃ type, v.resolve p.1 = .ok type) :
    ∃ text, v.filter f = .ok (some text) := by
  obtain ⟨parts, hparts⟩ :=
    exists_mapM_eq_ok fun p hp => exists_condition_eq_ok_iff.mpr (hknown p hp)
  exact ⟨_, filter_eq_ok_some_iff.mpr ⟨hf, parts, hparts, rfl⟩⟩

theorem withFilter_eq (statement : String) : v.withFilter statement f =
    (v.filter f).map fun condition => statement ++ condition.elim "" (" WHERE " ++ ·) := by
  rw [withFilter]
  rcases v.filter f with e | _ | condition
  · rfl
  · exact congrArg Except.ok String.append_empty.symm
  · exact congrArg Except.ok (String.append_assoc ..)

/-- **All statements carry the same condition**: only if there is none they differ. -/
theorem Mutation.exists_eq {m : Filter → Except DbError String} {front : Except DbError String}
    (hm : Mutation v m front) : ∃ all : String, ∀ f, m f = front.bind fun head =>
      (v.filter f).map fun condition => head ++ condition.elim all (" WHERE " ++ ·) := by
  cases hm with
  | update table cs values =>
    refine ⟨"", fun f => ?_⟩
    rw [Vocabulary.update]
    cases v.assignments cs values with
    | error e => rfl
    | ok parts => exact withFilter_eq _
  | delete table => exact ⟨"", fun f => withFilter_eq _⟩
  | alterUpdate table cs values =>
    refine ⟨" WHERE 1 = 1", fun f => ?_⟩
    rw [ClickHouse.update, ClickHouse.conditionOf]
    rcases ClickHouse.vocabulary.assignments cs values with e | parts
    · rfl
    · rcases ClickHouse.vocabulary.filter f with e | _ | condition
      · rfl
      · simp [bind, Except.bind, Except.map, pure, Except.pure, String.append_assoc]
      · simp [bind, Except.bind, Except.map, pure, Except.pure, String.append_assoc]
  | alterDelete table =>
    refine ⟨" WHERE 1 = 1", fun f => ?_⟩
    rw [ClickHouse.delete, ClickHouse.conditionOf]
    rcases ClickHouse.vocabulary.filter f with e | _ | condition
    · rfl
    · simp [bind, Except.bind, Except.map, pure, Except.pure, String.append_assoc]
    · have hdelete : " DELETE WHERE " = " DELETE" ++ " WHERE " := rfl
      rw [hdelete]
      refine congrArg Except.ok ?_
      simp only [Option.getD_some, Option.elim_some, String.append_assoc]

theorem Mutation.eq_of_error {m : Filter → Except DbError String} {front : Except DbError String}
    (hm : Mutation v m front) (h : v.filter f = .error e) :
    m f = front.bind fun _ => .error e := by
  obtain ⟨all, heq⟩ := hm.exists_eq
  rw [heq, h]
  rfl

theorem Mutation.eq_of_some {m : Filter → Except DbError String} {front : Except DbError String}
    (hm : Mutation v m front) (h : v.filter f = .ok (some text)) :
    m f = front.map fun head => head ++ " WHERE " ++ text := by
  obtain ⟨all, heq⟩ := hm.exists_eq
  rw [heq, h]
  cases front with
  | error e => rfl
  | ok head => exact congrArg Except.ok (String.append_assoc ..).symm

end Outcome

/-! ### Nothing is cut within a test -/

/-- What a vocabulary needs for its tests to be found again. -/
structure Regular (v : Vocabulary) : Prop where
  always : v.quoting.reserve = .always
  opening : v.quoting.opening = v.quoting.closing
  closing : v.quoting.closing = '"' ∨ v.quoting.closing = '\x60'
  backslash : v.style.backslashEscapes = v.quoting.backslashEscapes
  words : ∀ w ∈ v.style.words, v.quotes.Uncut w

theorem ClickHouseOrAnsi.regular (hv : ClickHouseOrAnsi v) : v.Regular := by
  cases hv with
  | clickHouse => exact ⟨rfl, rfl, Or.inr rfl, rfl, by decide⟩
  | ansi hmark types resolve =>
    have hdouble : ∀ w ∈ LiteralStyle.ansi.words, Text.Quotes.Uncut ⟨['"', '\''], false⟩ w := by
      decide
    have hback : ∀ w ∈ LiteralStyle.ansi.words, Text.Quotes.Uncut ⟨['\x60', '\''], false⟩ w := by
      decide
    rcases hmark with rfl | rfl
    · exact ⟨rfl, rfl, Or.inl rfl, rfl, hdouble⟩
    · exact ⟨rfl, rfl, Or.inr rfl, rfl, hback⟩

/-- The quotes, and the letter that the word between two tests needs. -/
def special : List Char := ['D', '"', '\x60', '\'']

namespace Regular

variable (hv : v.Regular)

include hv

theorem marks_subset : 'D' :: v.quotes.marks ⊆ special := by
  rw [quotes]
  rcases hv.closing with h | h <;> simp [special, h]

theorem uncut_of_forall {s : List Char} (hs : ∀ c ∈ s, c ∉ special) : v.quotes.Uncut s :=
  Text.Quotes.uncut_of_forall fun c hc hmem => hs c hc (hv.marks_subset hmem)

/-- The same, to be decided for a given text. -/
theorem uncut_of_all {s : List Char} (hs : (s.all fun c => !special.contains c) = true) :
    v.quotes.Uncut s := by
  refine hv.uncut_of_forall ?_
  intro c hc hspecial
  have hc : (!special.contains c) = true := List.all_eq_true.mp hs c hc
  rw [List.contains_iff_mem.mpr hspecial] at hc
  cases hc

theorem closing_ne : v.quoting.closing ≠ '\\' := by
  rcases hv.closing with h | h <;> rw [h] <;> decide

theorem quoteChars_eq_wrap {s : List Char} (hs : v.quoting.isQuoted s = false) :
    v.quoting.quoteChars s = v.quoting.wrap s :=
  Quoting.quoteChars_eq_wrap hs (by rw [Quoting.needsQuoting, hv.always])

theorem uncut_quoteChars {s : List Char} (hs : v.quoting.isQuoted s = false) :
    v.quotes.Uncut (v.quoting.quoteChars s) := by
  have hnot : v.quoting.closing ∉ ['\\', 'D'] := by
    rcases hv.closing with h | h <;> rw [h] <;> decide
  obtain ⟨body, hbody, content, hcontent⟩ := Quoting.enclosed_wrap hv.closing_ne s
  rw [hv.quoteChars_eq_wrap hs, hbody, hv.opening]
  exact Text.Quotes.uncut_quoted (r := v.quoting.rule) rfl (List.mem_cons_self ..) hnot hcontent

theorem uncut_render {t : Term} (ht : t.WellFormed v.style) : v.quotes.Uncut t.render := by
  have hmark : '\'' ∈ v.quotes.marks := List.mem_cons_of_mem _ (List.mem_singleton_self _)
  have hopen : v.quotes.Uncut ['['] := hv.uncut_of_all (by decide)
  have hcomma : v.quotes.Uncut [',', ' '] := hv.uncut_of_all (by decide)
  have hclose : v.quotes.Uncut [']'] := hv.uncut_of_all (by decide)
  -- brackets do not count
  refine Term.scan?_render (fun _ => 0) v.quotes.knownBy_nextFlat hv.backslash hmark (by decide)
    ?_ (fun _ => hopen) (fun _ => hcomma) (fun _ => hclose) ht 0
  rintro w (rfl | hw | hw) -
  · exact hv.uncut_of_all (by decide)
  · refine hv.uncut_of_forall ?_
    intro c hc hspecial
    simp only [special, List.mem_cons, List.not_mem_nil, or_false] at hspecial
    have hnumber := hw.chars c hc
    rcases hspecial with rfl | rfl | rfl | rfl <;> revert hnumber <;> decide
  · exact hv.words w hw

theorem uncut_literal {c : Column} {value : Cell} {text : String}
    (h : v.literal c value = .ok text) : v.quotes.Uncut text.toList := by
  rw [literal] at h
  cases hresolve : v.resolve c with
  | error e =>
    rw [hresolve] at h
    cases h
  | ok type =>
    rw [hresolve] at h
    cases h
    obtain ⟨t, ht, hrender, -⟩ := Cell.writtenAs_literal type.category v.style value
    rw [hrender]
    exact hv.uncut_render ht

theorem uncut_of_isConjunct {p : Column × Cell} {s : String}
    (hname : v.quoting.isQuoted p.1.columnName.toList = false) (h : v.IsConjunct p s) :
    v.quotes.Uncut s.toList := by
  have hquote : v.quotes.Uncut (v.quoting.quote p.1.columnName).toList := by
    rw [Quoting.quote, String.toList_ofList]
    exact hv.uncut_quoteChars hname
  by_cases hnull : p.2 = .null
  · rw [h.isNull_iff.mpr hnull, String.toList_append]
    exact hquote.append (hv.uncut_of_all (by decide))
  · obtain ⟨literal, hliteral, hs⟩ := h.eq_literal hnull
    rw [hs, String.toList_append, String.toList_append]
    exact (hquote.append (hv.uncut_of_all (by decide))).append (hv.uncut_literal hliteral)

theorem uncut_of_forall₂ {f : Filter} {parts : List String}
    (hnames : ∀ p ∈ f, v.quoting.isQuoted p.1.columnName.toList = false)
    (h : List.Forall₂ v.IsConjunct f parts) : ∀ s ∈ parts, v.quotes.Uncut s.toList := by
  induction h with
  | nil => exact List.forall_mem_nil _
  | cons hs _ ih =>
    obtain ⟨hname, hnames⟩ := List.forall_mem_cons.mp hnames
    exact List.forall_mem_cons.mpr ⟨hv.uncut_of_isConjunct hname hs, ih hnames⟩

theorem blank_not_mem_marks : ∀ c ∈ [' ', 'A', 'N'], c ∉ v.quotes.marks := by
  have hspecial : ∀ c ∈ [' ', 'A', 'N'], c ∉ special := by simp [special]
  intro c hc hmark
  exact hspecial c hc (hv.marks_subset (List.mem_cons_of_mem _ hmark))

/-- **Tests that were joined are found again.** -/
theorem conjuncts_intercalate {parts : List String} (hne : parts ≠ [])
    (hparts : ∀ s ∈ parts, v.quotes.Uncut s.toList) :
    v.conjuncts (" AND ".intercalate parts) = parts := by
  rw [conjuncts, String.toList_intercalate,
    Text.Quotes.conjuncts_intercalate hv.blank_not_mem_marks (mt List.map_eq_nil_iff.mp hne)
      (List.forall_mem_map.mpr hparts), List.map_map]
  simp [Function.comp_def]

/-! ### Reading a test -/

/-- The name of the column is read back, whatever test follows. -/
theorem readTest?_quote {name rest : String} (hname : v.quoting.isQuoted name.toList = false)
    (hrest : rest.toList.head? = some ' ') : v.readTest? (v.quoting.quote name ++ rest) =
      if rest.toList = " IS NULL".toList then some (name, none)
      else (Text.stripPrefix? " = ".toList rest.toList).map fun literal =>
        (name, some (String.ofList literal)) := by
  have hblank : some ' ' ≠ some v.quoting.closing := by
    rcases hv.closing with h | h <;> rw [h] <;> decide
  have hread : v.quoting.rule.read?
      (name.toList.flatMap v.quoting.escapeChar ++ v.quoting.closing :: rest.toList) =
      some (name.toList, rest.toList) :=
    Text.QuoteRule.read?_escape (r := v.quoting.rule) hv.closing_ne name.toList (hrest ▸ hblank)
  have hchars : (v.quoting.quote name ++ rest).toList = [v.quoting.opening] ++
      (name.toList.flatMap v.quoting.escapeChar ++ v.quoting.closing :: rest.toList) := by
    rw [Quoting.quote, String.toList_append, String.toList_ofList, hv.quoteChars_eq_wrap hname,
      Quoting.wrap]
    simp
  rw [readTest?, hchars, Text.stripPrefix?_eq_some_iff.mpr rfl]
  simp only [Option.bind_eq_bind, Option.bind_some, hread, String.ofList_toList]
  split
  · rfl
  · rw [Option.map_eq_bind]
    rfl

omit hv in
theorem agrees_null_iff {holds : String → Option String → Prop} {c : Column} :
    v.Agrees holds (c, .null) ↔ holds c.columnName none := by
  refine ⟨?_, .null⟩
  rintro (h | ⟨hne, -, -⟩)
  · exact h
  · exact absurd rfl hne

omit hv in
theorem agrees_iff_of_literal {holds : String → Option String → Prop} {c : Column} {value : Cell}
    {literal : String} (hne : value ≠ .null) (hliteral : v.literal c value = .ok literal) :
    v.Agrees holds (c, value) ↔ holds c.columnName (some literal) := by
  refine ⟨?_, .equal hne hliteral⟩
  rintro (- | ⟨-, h, hholds⟩)
  · exact absurd rfl hne
  · rw [hliteral] at h
    cases h
    exact hholds

/-- **A reader finds in a test what the pair asks for.** -/
theorem agrees_iff_readTest? {p : Column × Cell} {s : String}
    (hname : v.quoting.isQuoted p.1.columnName.toList = false) (h : v.IsConjunct p s)
    (holds : String → Option String → Prop) :
    v.Agrees holds p ↔ ∃ test, v.readTest? s = some test ∧ holds test.1 test.2 := by
  obtain ⟨c, value⟩ := p
  by_cases hnull : value = .null
  · subst hnull
    rw [h.isNull_iff.mpr rfl, hv.readTest?_quote hname rfl, if_pos rfl, agrees_null_iff]
    simp
  · obtain ⟨literal, hliteral, rfl⟩ := h.eq_literal hnull
    have hblank : (" = " ++ literal).toList.head? = some ' ' := by simp
    have hequal : (" = " ++ literal).toList ≠ " IS NULL".toList := by simp
    have hrest : Text.stripPrefix? " = ".toList (" = " ++ literal).toList = some literal.toList :=
      Text.stripPrefix?_eq_some_iff.mpr String.toList_append
    rw [String.append_assoc, hv.readTest?_quote hname hblank, if_neg hequal, hrest,
      agrees_iff_of_literal hnull hliteral, Option.map_some, String.ofList_toList]
    simp

end Regular

/-! ### Filters -/

/-- **Filters keep every condition.** There is no condition exactly for an empty filter, and it
fails with the error of the first pair that is not NULL and whose type is unknown; no
statement is made then. Else the parts of the condition are the tests of the pairs, one for
each and in order, a row meets the condition exactly if it agrees with every pair, and each
statement that changes or removes rows ends with this condition. The literals are those that
ClickHouse's inserts write for the same cells. -/
theorem filter_keeps_conditions (hv : ClickHouseOrAnsi v) {f : Filter}
    (hnames : ∀ p ∈ f, v.quoting.isQuoted p.1.columnName.toList = false) :
    (v.filter f = .ok none ↔ f = []) ∧
      ((∃ e, v.filter f = .error e) ↔ ∃ p ∈ f, p.2 ≠ .null ∧ ∃ e, v.resolve p.1 = .error e) ∧
      (∀ e, v.filter f = .error e ↔ ∃ before p after, f = before ++ p :: after ∧
        (∀ q ∈ before, q.2 ≠ .null → ∃ type, v.resolve q.1 = .ok type) ∧
        p.2 ≠ .null ∧ v.resolve p.1 = .error e) ∧
      (∀ e, v.filter f = .error e →
        ∀ m front, Mutation v m front → m f = front.bind fun _ => .error e) ∧
      (f ≠ [] → (∀ p ∈ f, p.2 ≠ .null → ∃ type, v.resolve p.1 = .ok type) →
        ∃ text, v.filter f = .ok (some text) ∧ List.Forall₂ v.IsConjunct f (v.conjuncts text) ∧
          (∀ holds, v.Meets holds text ↔ ∀ p ∈ f, v.Agrees holds p) ∧
          ∀ m front, Mutation v m front → m f = front.map fun head => head ++ " WHERE " ++ text) ∧
      (v = ClickHouse.vocabulary → ∀ table cs rows strategy statements, rows ≠ [] →
        ClickHouse.insert table cs rows strategy = .ok statements →
        ∃ before cells, statements = before ++ [ClickHouse.insertText table cs cells] ∧
          List.Forall₂ (fun row texts => texts.length = cs.length ∧
            ∀ p ∈ f, ∀ j : Nat, cs[j]? = some p.1 → row[j]? = some p.2 →
              ∃ text, v.literal p.1 p.2 = .ok text ∧ texts[j]? = some text) rows cells) := by
  refine ⟨filter_eq_ok_none_iff, exists_filter_eq_error_iff, ?_, ?_, ?_, ?_⟩
  · intro e
    exact filter_eq_error_iff
  · intro e he m front hm
    exact hm.eq_of_error he
  · intro hf hknown
    obtain ⟨text, htext⟩ := exists_filter_eq_ok_some hf hknown
    obtain ⟨-, parts, hparts, rfl⟩ := filter_eq_ok_some_iff.mp htext
    have htests : List.Forall₂ v.IsConjunct f parts :=
      (mapM_eq_ok_iff.mp hparts).imp fun _ _ => isConjunct_of_condition
    have hne : parts ≠ [] := by
      rintro rfl
      exact hf (List.forall₂_nil_right_iff.mp htests)
    have hconjuncts : v.conjuncts (" AND ".intercalate parts) = parts :=
      hv.regular.conjuncts_intercalate hne (hv.regular.uncut_of_forall₂ hnames htests)
    refine ⟨_, htext, ?_, ?_, ?_⟩
    · rwa [hconjuncts]
    · intro holds
      rw [Meets, hconjuncts]
      refine (forall_mem_iff_of_forall₂ htests ?_).symm
      intro p hp s hs
      exact hv.regular.agrees_iff_readTest? (hnames p hp) hs holds
    · intro m front hm
      exact hm.eq_of_some htext
  · rintro rfl table cs rows strategy statements hrows hinsert
    obtain ⟨before, cells, hstatements, hcells⟩ := ClickHouse.exists_insertText hrows hinsert
    refine ⟨before, cells, hstatements, hcells.imp ?_⟩
    rintro row texts ⟨hlen, hcell⟩
    rw [List.length_map] at hlen
    refine ⟨hlen, ?_⟩
    intro p _ j hc hvalue
    obtain ⟨literal, hliteral, htext⟩ := hcell j p.1 p.2 hc hvalue
    rw [List.getElem?_map, Option.map_eq_some_iff] at htext
    obtain ⟨text, htext, he⟩ := htext
    obtain rfl := String.toList_injective he
    exact ⟨text, hliteral, htext⟩

/-- Standard SQL with the names of ClickHouse's types. -/
def standard : Vocabulary := { quoting := .ansi, style := .ansi, types := ClickHouse.types }

/-- The word between two tests hidden in a name and in a value, and a NULL. -/
def hidden : Filter :=
  [(⟨"t", "a\" AND \"b", "String", none, false, false, none, false⟩, .string "' AND \"c\" = '"),
    (⟨"t", "n", "Int32", none, false, false, none, false⟩, .null)]

/-- Two tests, not five. -/
theorem filter_keeps_conditions_of_hidden : ClickHouseOrAnsi standard ∧
    (∀ p ∈ hidden, standard.quoting.isQuoted p.1.columnName.toList = false) ∧
    ∃ text, standard.filter hidden = .ok (some text) ∧ (standard.conjuncts text).length = 2 ∧
      standard.delete "t" hidden = .ok ("DELETE FROM \"t\" WHERE " ++ text) := by
  have hv : ClickHouseOrAnsi standard := .ansi (Or.inl rfl) _ _
  have hnames : ∀ p ∈ hidden, standard.quoting.isQuoted p.1.columnName.toList = false := by decide
  have hknown : ∀ p ∈ hidden, p.2 ≠ .null → ∃ type, standard.resolve p.1 = .ok type :=
    List.forall_mem_cons.mpr ⟨fun _ => ⟨⟨"String", .string, .varchar⟩, rfl⟩,
      List.forall_mem_singleton.mpr fun hne => absurd rfl hne⟩
  obtain ⟨text, htext, htests, -, hm⟩ :=
    (filter_keeps_conditions hv hnames).2.2.2.2.1 (List.cons_ne_nil _ _) hknown
  refine ⟨hv, hnames, text, htext, htests.length_eq.symm, (hm _ _ (.delete "t")).trans ?_⟩
  rfl

end Vocabulary

end SqlDialect
