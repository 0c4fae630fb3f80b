import SqlDialect.Identifier
/-!
# Reading a text between quotes

Identifiers and string literals follow one grammar. Inside quotes the closing
character written twice stands for itself, a backslash may make the character
after it stand for itself, and the first closing character that is neither ends
the text. A `QuoteRule` is such a grammar and `read?` its reader: from a place
inside quotes it gives the content, with all escapes taken back, and what
follows the closing character.

* `read?_escape`: an escaped text is read back, whatever comes after it.
* `closes_iff`: a text whose inner closing characters come in pairs ends at its
  last character exactly when no closing character stands behind an escaping
  backslash. Counting pairs alone is not enough.
-/

namespace SqlDialect.Text

/-- Which character ends a quoted text, and whether a backslash escapes in it. -/
structure QuoteRule where
  closing : Char
  backslash : Bool

namespace QuoteRule

def escapeChar (r : QuoteRule) (c : Char) : List Char :=
  if c = r.closing then [c, c]
  else if c = '\\' ∧ r.backslash then ['\\', '\\']
  else [c]

/-- The content up to the character that ends a quoted text, and what follows
it. Nothing, if the text does not end. -/
def read? (r : QuoteRule) : List Char → Option (List Char × List Char)
  | [] => none
  | [c] =>
    if c = '\\' ∧ r.backslash then none
    else if c = r.closing then some ([], [])
    else none
  | c :: d :: s =>
    if c = '\\' ∧ r.backslash then (read? r s).map fun p => (d :: p.1, p.2)
    else if c = r.closing then
      if d = r.closing then (read? r s).map fun p => (c :: p.1, p.2) else some ([], d :: s)
    else (read? r (d :: s)).map fun p => (c :: p.1, p.2)

/-- The text ends, and with its last character. -/
def Closes (r : QuoteRule) (s : List Char) : Prop := ∃ content, r.read? s = some (content, [])

variable {r : QuoteRule}

/-! ### One step of the reader -/

theorem read?_backslash (hb : r.backslash = true) (d : Char) (s : List Char) :
    r.read? ('\\' :: d :: s) = (r.read? s).map fun p => (d :: p.1, p.2) := by
  rw [read?, if_pos ⟨rfl, hb⟩]

theorem read?_doubled (hr : r.closing ≠ '\\') (s : List Char) :
    r.read? (r.closing :: r.closing :: s) =
      (r.read? s).map fun p => (r.closing :: p.1, p.2) := by
  rw [read?, if_neg (fun h => hr h.1), if_pos rfl, if_pos rfl]

theorem read?_closing (hr : r.closing ≠ '\\') {s : List Char} (hs : s.head? ≠ some r.closing) :
    r.read? (r.closing :: s) = some ([], s) := by
  cases s with
  | nil => rw [read?, if_neg (fun h => hr h.1), if_pos rfl]
  | cons d s =>
    have hd : d ≠ r.closing := by simpa using hs
    rw [read?, if_neg (fun h => hr h.1), if_pos rfl, if_neg hd]

theorem read?_plain {c : Char} (hc : c ≠ r.closing) (hb : ¬(c = '\\' ∧ r.backslash = true))
    (s : List Char) : r.read? (c :: s) = (r.read? s).map fun p => (c :: p.1, p.2) := by
  cases s with
  | nil => rw [read?, read?, if_neg hb, if_neg hc, Option.map_none]
  | cons d s => rw [read?, if_neg hb, if_neg hc]

/-- A step of the reader puts one character in front of the content. -/
theorem map_cons_eq_some {c : Char} {o : Option (List Char × List Char)}
    {content rest : List Char} :
    (o.map fun p => (c :: p.1, p.2)) = some (content, rest) ↔
      ∃ inner, content = c :: inner ∧ o = some (inner, rest) := by
  rw [Option.map_eq_some_iff]
  constructor
  · rintro ⟨⟨inner, rest'⟩, ho, he⟩
    cases he
    exact ⟨inner, rfl, ho⟩
  · rintro ⟨inner, rfl, ho⟩
    exact ⟨_, ho, rfl⟩

/-- A reader that succeeds leaves less than it was given. -/
theorem length_read?_lt {s content rest : List Char} (h : r.read? s = some (content, rest)) :
    rest.length < s.length := by
  induction s using read?.induct r generalizing content with
  | case1 => simp [read?] at h
  | case2 c hb => rw [read?, if_pos hb] at h; cases h
  | case3 hb => rw [read?, if_neg hb, if_pos rfl] at h; cases h; simp
  | case4 c hb hc => rw [read?, if_neg hb, if_neg hc] at h; cases h
  | case5 c d s hb ih =>
    rw [read?, if_pos hb] at h
    obtain ⟨inner, -, h⟩ := map_cons_eq_some.mp h
    have hlt := ih h
    rw [List.length_cons, List.length_cons]
    omega
  | case6 s hb ih =>
    rw [read?, if_neg hb, if_pos rfl, if_pos rfl] at h
    obtain ⟨inner, -, h⟩ := map_cons_eq_some.mp h
    have hlt := ih h
    rw [List.length_cons, List.length_cons]
    omega
  | case7 d s hd hb =>
    rw [read?, if_neg hb, if_pos rfl, if_neg hd] at h
    cases h
    simp
  | case8 c d s hb hc ih =>
    rw [read?, if_neg hb, if_neg hc] at h
    obtain ⟨inner, -, h⟩ := map_cons_eq_some.mp h
    exact Nat.lt_succ_of_lt (ih h)

/-- The reader does not look at what follows, except for a closing character right
behind the end. -/
theorem read?_append (hr : r.closing ≠ '\\') {rest tail : List Char}
    (hrest : tail = [] → rest.head? ≠ some r.closing) {s content : List Char}
    (h : r.read? s = some (content, tail)) :
    r.read? (s ++ rest) = some (content, tail ++ rest) := by
  induction s using read?.induct r generalizing content with
  | case1 => simp [read?] at h
  | case2 c hb => rw [read?, if_pos hb] at h; cases h
  | case3 hb =>
    rw [read?_closing hr (by simp)] at h
    cases h
    exact read?_closing hr (hrest rfl)
  | case4 c hb hc => rw [read?, if_neg hb, if_neg hc] at h; cases h
  | case5 c d s hb ih =>
    obtain ⟨rfl, hb⟩ := hb
    rw [read?_backslash hb] at h
    obtain ⟨inner, rfl, hs⟩ := map_cons_eq_some.mp h
    rw [List.cons_append, List.cons_append, read?_backslash hb, ih hs, Option.map_some]
  | case6 s hb ih =>
    rw [read?_doubled hr] at h
    obtain ⟨inner, rfl, hs⟩ := map_cons_eq_some.mp h
    rw [List.cons_append, List.cons_append, read?_doubled hr, ih hs, Option.map_some]
  | case7 d s hd hb =>
    rw [read?_closing hr (by simpa using hd)] at h
    cases h
    exact read?_closing hr (by simpa using hd)
  | case8 c d s hb hc ih =>
    rw [read?_plain hc hb] at h
    obtain ⟨inner, rfl, hs⟩ := map_cons_eq_some.mp h
    rw [List.cons_append, read?_plain hc hb, ih hs, Option.map_some]

/-! ### Reading back what was escaped -/

theorem read?_escapeChar (hr : r.closing ≠ '\\') (c : Char) (s : List Char) :
    r.read? (r.escapeChar c ++ s) = (r.read? s).map fun p => (c :: p.1, p.2) := by
  unfold escapeChar
  split
  · rename_i hc
    subst hc
    exact read?_doubled hr s
  · rename_i hc
    split
    · rename_i hb
      obtain ⟨rfl, hb⟩ := hb
      exact read?_backslash hb '\\' s
    · rename_i hb
      exact read?_plain hc hb s

/-- **An escaped text is read back**, and the reader stops right behind it. -/
theorem read?_escape (hr : r.closing ≠ '\\') (s : List Char) {rest : List Char}
    (hrest : rest.head? ≠ some r.closing) :
    r.read? (s.flatMap r.escapeChar ++ r.closing :: rest) = some (s, rest) := by
  induction s with
  | nil => exact read?_closing hr hrest
  | cons c s ih =>
    rw [List.flatMap_cons, List.append_assoc, read?_escapeChar hr, ih, Option.map_some]

theorem closes_escape (hr : r.closing ≠ '\\') (s : List Char) :
    r.Closes (s.flatMap r.escapeChar ++ [r.closing]) :=
  ⟨s, read?_escape hr s (by simp)⟩

/-! ### Pairs of closing characters and backslashes -/

theorem closes_map_iff {s t : List Char} {c : Char}
    (h : r.read? s = (r.read? t).map fun p => (c :: p.1, p.2)) : r.Closes s ↔ r.Closes t := by
  unfold Closes
  rw [h]
  constructor
  · rintro ⟨content, hs⟩
    obtain ⟨inner, -, ht⟩ := map_cons_eq_some.mp hs
    exact ⟨inner, ht⟩
  · rintro ⟨content, ht⟩
    exact ⟨c :: content, map_cons_eq_some.mpr ⟨content, rfl, ht⟩⟩

/-- Whether an escape is open at the end of a text, if one is open in front of
it or not: a backslash opens one unless it is escaped itself. -/
def openEscape (before : Bool) (s : List Char) : Bool :=
  s.foldl (fun escaped c => c == '\\' && !escaped) before

/-- Some closing character stands behind an escaping backslash. -/
def EscapesClosing (closing : Char) (before : Bool) (s : List Char) : Prop :=
  ∃ a b, s = a ++ closing :: b ∧ openEscape before a = true

theorem not_escapesClosing_nil (closing : Char) (before : Bool) :
    ¬EscapesClosing closing before [] := by
  rintro ⟨a, b, h, -⟩
  simp at h

theorem escapesClosing_cons {closing c : Char} {before : Bool} {s : List Char} :
    EscapesClosing closing before (c :: s) ↔
      before = true ∧ c = closing ∨ EscapesClosing closing (c == '\\' && !before) s := by
  constructor
  · rintro ⟨a, b, h, ha⟩
    cases a with
    | nil =>
      rw [List.nil_append, List.cons.injEq] at h
      exact Or.inl ⟨ha, h.1⟩
    | cons d a =>
      rw [List.cons_append, List.cons.injEq] at h
      obtain ⟨rfl, rfl⟩ := h
      exact Or.inr ⟨a, b, rfl, ha⟩
  · rintro (⟨hb, rfl⟩ | ⟨a, b, rfl, ha⟩)
    · exact ⟨[], s, rfl, hb⟩
    · exact ⟨c :: a, b, rfl, ha⟩

open Quoting (pairsOnly)

theorem pairsOnly_cons_of_ne {closing c : Char} (hc : c ≠ closing) {s : List Char} :
    pairsOnly closing (c :: s) = true ↔ pairsOnly closing s = true := by
  cases s with
  | nil => simp [pairsOnly, hc]
  | cons d s => rw [pairsOnly, if_neg hc]

theorem pairsOnly_cons_self {closing : Char} {s : List Char} :
    pairsOnly closing (closing :: s) = true ↔
      ∃ t, s = closing :: t ∧ pairsOnly closing t = true := by
  cases s with
  | nil => simp [pairsOnly]
  | cons d s =>
    rw [pairsOnly, if_pos rfl, Bool.and_eq_true, beq_iff_eq]
    constructor
    · rintro ⟨rfl, hs⟩
      exact ⟨s, rfl, hs⟩
    · rintro ⟨t, h, ht⟩
      cases h
      exact ⟨rfl, ht⟩

/-- Behind pairs alone, one closing character too many keeps a text from ending
with its last character. -/
theorem not_closes_of_pairsOnly (hr : r.closing ≠ '\\') :
    ∀ {t : List Char}, pairsOnly r.closing t = true → ¬r.Closes (r.closing :: t ++ [r.closing])
  | [], _ => by
    rw [List.cons_append, List.nil_append, closes_map_iff (read?_doubled hr [])]
    rintro ⟨content, h⟩
    simp [read?] at h
  | c :: t, ht => by
    by_cases hc : c = r.closing
    · subst hc
      obtain ⟨u, rfl, hu⟩ := pairsOnly_cons_self.mp ht
      simp only [List.cons_append]
      rw [closes_map_iff (read?_doubled hr _)]
      exact not_closes_of_pairsOnly hr hu
    · rintro ⟨content, h⟩
      rw [List.cons_append, List.cons_append, read?_closing hr (by simpa using hc)] at h
      simp at h

/-- **When pairs of closing characters are enough.** A text whose inner closing
characters come in pairs ends with its last character, unless one of them is
taken for an escaped one. -/
theorem closes_iff (hr : r.closing ≠ '\\') :
    ∀ {t : List Char}, pairsOnly r.closing t = true →
      (r.Closes (t ++ [r.closing]) ↔
        ¬(r.backslash = true ∧ EscapesClosing r.closing false (t ++ [r.closing])))
  | [], _ => by
    refine iff_of_true ⟨[], read?_closing hr (by simp)⟩ ?_
    rintro ⟨-, h⟩
    rcases escapesClosing_cons.mp h with ⟨h, -⟩ | h
    · cases h
    · exact not_escapesClosing_nil _ _ h
  | c :: t, ht => by
    simp only [List.cons_append]
    by_cases hc : c = r.closing
    · -- a pair
      subst hc
      obtain ⟨u, rfl, hu⟩ := pairsOnly_cons_self.mp ht
      simp only [List.cons_append]
      rw [closes_map_iff (read?_doubled hr _), closes_iff hr hu, escapesClosing_cons,
        escapesClosing_cons]
      simp [hr]
    · rw [pairsOnly_cons_of_ne hc] at ht
      by_cases hb : c = '\\' ∧ r.backslash = true
      · obtain ⟨rfl, hb⟩ := hb
        cases t with
        | nil =>
          -- the last character is escaped
          refine iff_of_false ?_ (not_not_intro ⟨hb, ['\\'], [], rfl, rfl⟩)
          rw [List.nil_append, closes_map_iff (read?_backslash hb _ [])]
          rintro ⟨content, h⟩
          simp [read?] at h
        | cons d t =>
          simp only [List.cons_append]
          rw [closes_map_iff (read?_backslash hb _ _)]
          by_cases hd : d = r.closing
          · subst hd
            obtain ⟨u, rfl, hu⟩ := pairsOnly_cons_self.mp ht
            exact iff_of_false (not_closes_of_pairsOnly hr hu)
              (not_not_intro ⟨hb, ['\\'], _, rfl, rfl⟩)
          · rw [pairsOnly_cons_of_ne hd] at ht
            rw [closes_iff hr ht, escapesClosing_cons, escapesClosing_cons]
            simp [hd]
      · rw [closes_map_iff (read?_plain hc hb _), closes_iff hr ht]
        refine not_congr (and_congr_right fun h => ?_)
        have hne : (c == '\\') = false := beq_false_of_ne fun hc' => hb ⟨hc', h⟩
        rw [escapesClosing_cons, hne]
        simp

end QuoteRule

end SqlDialect.Text
