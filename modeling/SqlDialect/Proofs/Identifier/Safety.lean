import SqlDialect.ClickHouse.Types
import SqlDialect.Proofs.Text.Quoted
/-!
# What an identifier looks like to a reader

An identifier is safe in a statement if a reader takes exactly its own
characters for it: it is one complete quoted identifier (`Enclosed`), or a plain
word that stands for no keyword (`BareWord`).

`quote` writes safe identifiers with one exception, and `quote_safe_iff` says
which. It returns unchanged what stands between quotes already, and it decides
this by counting closing characters in pairs (`isQuoted_iff`). Where a backslash
escapes, a closing character behind one is no part of a pair, so an identifier
that the test takes for quoted may end too early or not at all.
-/

namespace SqlDialect

/-- A character that no plain word, no dot and no escape is written with. -/
def IsMark (c : Char) : Prop := c ≠ '.' ∧ c ≠ '\\' ∧ isWordChar c = false

namespace Quoting

open Text.QuoteRule (EscapesClosing)

/-- The grammar of a text between the quotes of an engine. -/
def rule (q : Quoting) : Text.QuoteRule := ⟨q.closing, q.backslashEscapes⟩

/-- Both quotes are marks. -/
structure HasMarks (q : Quoting) : Prop where
  opening : IsMark q.opening
  closing : IsMark q.closing

/-- One complete quoted identifier: it begins with the opening character, and
the first closing character that is not escaped is its last one. -/
def Enclosed (q : Quoting) (t : List Char) : Prop :=
  ∃ body, t = q.opening :: body ∧ q.rule.Closes body

/-- A plain word, where the engine lets these stand without quotes, that stands
for none of its keywords. -/
def BareWord (q : Quoting) (t : List Char) : Prop :=
  ∃ keywords, q.reserve = .words keywords ∧ isPlainWord t = true ∧
    ∀ w ∈ keywords, Text.eqIgnoreCase w.toList t = false

/-- A reader takes exactly these characters for an identifier. -/
def Safe (q : Quoting) (t : List Char) : Prop := q.Enclosed t ∨ q.BareWord t

variable {q : Quoting}

/-! ### The test for quotes -/

theorem isQuoted_iff {s : List Char} :
    q.isQuoted s = true ↔
      ∃ t, s = q.opening :: (t ++ [q.closing]) ∧ pairsOnly q.closing t = true := by
  cases s with
  | nil => simp [isQuoted]
  | cons c s =>
    rw [isQuoted, Bool.and_eq_true, Bool.and_eq_true, beq_iff_eq, beq_iff_eq]
    constructor
    · rintro ⟨⟨rfl, hs⟩, hp⟩
      obtain ⟨t, rfl⟩ := List.getLast?_eq_some_iff.mp hs
      rw [List.dropLast_concat] at hp
      exact ⟨t, rfl, hp⟩
    · rintro ⟨t, h, ht⟩
      cases h
      rw [List.dropLast_concat]
      exact ⟨⟨rfl, List.getLast?_concat⟩, ht⟩

theorem isQuoted_eq_false_of_not_mem {s : List Char} (ho : q.opening ∉ s) :
    q.isQuoted s = false := by
  rw [Bool.eq_false_iff]
  intro h
  obtain ⟨t, rfl, -⟩ := isQuoted_iff.mp h
  exact ho (List.mem_cons_self ..)

theorem not_bareWord_of_isQuoted (ho : isWordChar q.opening = false) {s : List Char}
    (hs : q.isQuoted s = true) : ¬q.BareWord s := by
  obtain ⟨t, rfl, -⟩ := isQuoted_iff.mp hs
  rintro ⟨keywords, -, hp, -⟩
  rw [isPlainWord, List.all_cons, ho, Bool.false_and, Bool.and_false] at hp
  cases hp

/-! ### What is written -/

theorem quoteChars_of_isQuoted {s : List Char} (hs : q.isQuoted s = true) :
    q.quoteChars s = s := by
  rw [quoteChars, hs, Bool.true_or, if_pos rfl]

theorem quoteChars_eq_wrap {s : List Char} (hs : q.isQuoted s = false)
    (hn : q.needsQuoting s = true) : q.quoteChars s = q.wrap s := by
  rw [quoteChars, hs, hn]
  rfl

theorem quoteChars_of_not_needsQuoting {s : List Char} (hn : q.needsQuoting s = false) :
    q.quoteChars s = s := by
  rw [quoteChars, hn, Bool.not_false, Bool.or_true, if_pos rfl]

theorem enclosed_wrap (hc : q.closing ≠ '\\') (s : List Char) : q.Enclosed (q.wrap s) :=
  ⟨_, rfl, Text.QuoteRule.closes_escape (r := q.rule) hc s⟩

theorem bareWord_of_not_needsQuoting {s : List Char} (hn : q.needsQuoting s = false) :
    q.BareWord s := by
  unfold needsQuoting at hn
  split at hn
  · cases hn
  · rename_i keywords hk
    rw [Bool.or_eq_false_iff, Bool.not_eq_false'] at hn
    refine ⟨keywords, hk, hn.1, fun w hw => ?_⟩
    exact Bool.eq_false_iff.mpr (List.any_eq_false.mp hn.2 w hw)

/-- An identifier that stands between quotes is a complete one exactly if none of
its closing characters is escaped. -/
theorem enclosed_iff_of_isQuoted (hq : q.HasMarks) {s : List Char} (hs : q.isQuoted s = true) :
    q.Enclosed s ↔
      ¬(q.backslashEscapes = true ∧ EscapesClosing q.closing false s) := by
  obtain ⟨t, rfl, ht⟩ := isQuoted_iff.mp hs
  have hcloses : q.rule.Closes (t ++ [q.closing]) ↔
      ¬(q.backslashEscapes = true ∧ EscapesClosing q.closing false (t ++ [q.closing])) :=
    Text.QuoteRule.closes_iff (r := q.rule) hq.closing.2.1 ht
  have ho : (q.opening == '\\') = false := beq_false_of_ne hq.opening.2.1
  have hesc : EscapesClosing q.closing false (q.opening :: (t ++ [q.closing])) ↔
      EscapesClosing q.closing false (t ++ [q.closing]) := by
    rw [Text.QuoteRule.escapesClosing_cons, ho]
    simp
  rw [hesc, ← hcloses]
  constructor
  · rintro ⟨body, h, hb⟩
    cases h
    exact hb
  · exact fun h => ⟨_, rfl, h⟩

/-- **When a written identifier is safe**: unless a backslash escapes, the
identifier stood between quotes before, and one of its closing characters is
escaped. -/
theorem quote_safe_iff (q : Quoting) (hq : q.HasMarks) (s : String) :
    q.Safe (q.quote s).toList ↔
      ¬(q.backslashEscapes = true ∧ q.isQuoted s.toList = true ∧
        EscapesClosing q.closing false s.toList) := by
  rw [quote, String.toList_ofList]
  by_cases hs : q.isQuoted s.toList = true
  · rw [quoteChars_of_isQuoted hs, Safe,
      or_iff_left (not_bareWord_of_isQuoted hq.opening.2.2 hs), enclosed_iff_of_isQuoted hq hs]
    simp [hs]
  · have hs' : q.isQuoted s.toList = false := Bool.eq_false_iff.mpr hs
    refine iff_of_true ?_ (fun h => hs h.2.1)
    by_cases hn : q.needsQuoting s.toList = true
    · rw [quoteChars_eq_wrap hs' hn]
      exact Or.inl (enclosed_wrap hq.closing.2.1 _)
    · have hn' : q.needsQuoting s.toList = false := Bool.eq_false_iff.mpr hn
      rw [quoteChars_of_not_needsQuoting hn']
      exact Or.inr (bareWord_of_not_needsQuoting hn')

theorem hasMarks_clickHouse : ClickHouse.quoting.HasMarks :=
  ⟨⟨by decide, by decide, by decide⟩, ⟨by decide, by decide, by decide⟩⟩

/-- A closing quote at the end of a raw name and a backslash in front of another
are both escaped. -/
theorem safe_quote_of_raw_name : ClickHouse.quoting.HasMarks ∧
    ClickHouse.quoting.Safe (ClickHouse.quoting.quote "a\\`b`").toList :=
  ⟨hasMarks_clickHouse,
    (quote_safe_iff _ hasMarks_clickHouse _).mpr fun h => absurd h.2.1 (by decide)⟩

/-- **A name that is not quoted well enough.** It passes for quoted, but a reader
takes its third closing character for the end and finds text behind it. -/
theorem text_outside_quotes :
    ClickHouse.quoting.quote "`a\\``b`" = "`a\\``b`" ∧
      ClickHouse.quoting.rule.read? "a\\``b`".toList = some ("a`".toList, "b`".toList) ∧
      ¬ClickHouse.quoting.Safe (ClickHouse.quoting.quote "`a\\``b`").toList := by
  have hquote : ClickHouse.quoting.quote "`a\\``b`" = "`a\\``b`" := by decide
  refine ⟨hquote, by decide, ?_⟩
  rw [hquote]
  have hquoted : ClickHouse.quoting.isQuoted "`a\\``b`".toList = true := by decide
  rintro (h | h)
  · exact (enclosed_iff_of_isQuoted hasMarks_clickHouse hquoted).mp h
      ⟨rfl, "`a\\".toList, "`b`".toList, by decide, by decide⟩
  · exact not_bareWord_of_isQuoted hasMarks_clickHouse.opening.2.2 hquoted h

end Quoting

end SqlDialect
