import SqlDialect.Proofs.Identifier.Qualified
/-!
# Identifiers that pass for quoted

Whether an identifier stands between quotes is decided by its closing characters alone: taken away
in pairs from the left, none of them is left over inside (`pairsOnly_iff_not_mem_withoutPairs`).

Where no backslash escapes, this is what a reader finds who starts behind the opening character
and goes on until a closing character stands alone: `closes_iff_pairsOnly`, by cases of what the
reader meets next. The scanner of dotted names goes the same way, so it finds no dot to cut at
(`splitInside_of_pairsOnly`).
-/

namespace SqlDialect

namespace Text.QuoteRule

open Quoting (pairsOnly)

variable {r : QuoteRule}

/-- **A reader without escapes ends at the last character** exactly if that is a closing character
and the ones before it come in pairs. -/
theorem closes_iff_pairsOnly (hb : r.backslash = false) : ∀ s : List Char,
    r.Closes s ↔ ∃ t, s = t ++ [r.closing] ∧ pairsOnly r.closing t = true
  | [] => by
    constructor
    · rintro ⟨content, h⟩
      cases h
    · rintro ⟨t, h, -⟩
      simp at h
  | [c] => by
    have hplain : ¬(c = '\\' ∧ r.backslash = true) := by simp [hb]
    constructor
    · rintro ⟨content, h⟩
      rw [read?, if_neg hplain] at h
      split at h
      · rename_i hc
        exact ⟨[], by rw [hc]; rfl, rfl⟩
      · cases h
    · rintro ⟨t, h, -⟩
      cases t with
      | nil =>
        obtain ⟨rfl, -⟩ := List.cons.inj h
        exact ⟨[], by rw [read?, if_neg hplain, if_pos rfl]⟩
      | cons d t => simp at h
  | c :: d :: s => by
    have hplain : ¬(c = '\\' ∧ r.backslash = true) := by simp [hb]
    by_cases hc : c = r.closing
    · by_cases hd : d = r.closing
      · have hread : r.read? (c :: d :: s) = (r.read? s).map fun p => (c :: p.1, p.2) := by
          rw [read?, if_neg hplain, if_pos hc, if_pos hd]
        rw [closes_map_iff hread, closes_iff_pairsOnly hb s]
        constructor
        · rintro ⟨t, rfl, ht⟩
          refine ⟨c :: d :: t, rfl, ?_⟩
          rw [hc, hd]
          exact pairsOnly_cons_self.mpr ⟨t, rfl, ht⟩
        · rintro ⟨t, h, ht⟩
          cases t with
          | nil => simp at h
          | cons x u =>
            obtain ⟨rfl, hrest⟩ := List.cons.inj h
            rw [hc] at ht
            obtain ⟨v, rfl, hv⟩ := pairsOnly_cons_self.mp ht
            exact ⟨v, (List.cons.inj hrest).2, hv⟩
      · -- a closing character that stands alone, with text behind it
        have hread : r.read? (c :: d :: s) = some ([], d :: s) := by
          rw [read?, if_neg hplain, if_pos hc, if_neg hd]
        refine iff_of_false ?_ ?_
        · rintro ⟨content, h⟩
          rw [hread] at h
          cases h
        · rintro ⟨t, h, ht⟩
          cases t with
          | nil => simp at h
          | cons x u =>
            obtain ⟨rfl, hrest⟩ := List.cons.inj h
            rw [hc] at ht
            obtain ⟨v, rfl, -⟩ := pairsOnly_cons_self.mp ht
            exact hd (List.cons.inj hrest).1
    · rw [closes_map_iff (read?_plain hc hplain (d :: s)), closes_iff_pairsOnly hb (d :: s)]
      constructor
      · rintro ⟨t, ht, hpairs⟩
        exact ⟨c :: t, by rw [ht]; rfl, (pairsOnly_cons_of_ne hc).mpr hpairs⟩
      · rintro ⟨t, h, ht⟩
        cases t with
        | nil => simp at h
        | cons x u =>
          obtain ⟨rfl, hrest⟩ := List.cons.inj h
          exact ⟨u, hrest, (pairsOnly_cons_of_ne hc).mp ht⟩

end Text.QuoteRule

namespace Quoting

open Text.QuoteRule (pairsOnly_cons_self pairsOnly_cons_of_ne closes_iff_pairsOnly)

/-- A text without the pairs of a character, taken from the left. -/
def withoutPairs (c : Char) : List Char → List Char
  | d :: e :: s => if d = c ∧ e = c then withoutPairs c s else d :: withoutPairs c (e :: s)
  | s => s

theorem pairsOnly_iff_not_mem_withoutPairs (c : Char) : ∀ s : List Char,
    pairsOnly c s = true ↔ c ∉ withoutPairs c s
  | [] => by simp [pairsOnly, withoutPairs]
  | [d] => by
    show (d != c) = true ↔ c ∉ [d]
    rw [bne_iff_ne, List.mem_singleton]
    exact ne_comm
  | d :: e :: s => by
    by_cases hd : d = c
    · subst hd
      by_cases he : e = d
      · subst he
        rw [withoutPairs, if_pos ⟨rfl, rfl⟩, ← pairsOnly_iff_not_mem_withoutPairs e s,
          pairsOnly_cons_self]
        simp
      · rw [withoutPairs, if_neg fun h => he h.2, pairsOnly_cons_self]
        simp [he]
    · rw [withoutPairs, if_neg fun h => hd h.1, pairsOnly_cons_of_ne hd,
        pairsOnly_iff_not_mem_withoutPairs c (e :: s), List.mem_cons, not_or]
      exact (and_iff_right (Ne.symm hd)).symm

variable {q : Quoting}

/-- The scanner of a dotted name comes to the last closing character inside quotes. -/
theorem splitInside_of_pairsOnly (hb : q.backslashEscapes = false) : ∀ t : List Char,
    pairsOnly q.closing t = true →
      q.splitInside (t ++ [q.closing]) = [t ++ [q.closing]]
  | [], _ => rfl
  | c :: t, ht => by
    have hplain : ¬(c = '\\' ∧ q.backslashEscapes = true) := by simp [hb]
    by_cases hc : c = q.closing
    · rw [hc] at ht
      obtain ⟨u, rfl, hu⟩ := pairsOnly_cons_self.mp ht
      rw [List.cons_append, List.cons_append, splitInside, if_neg hplain, if_pos hc, if_pos rfl,
        splitInside_of_pairsOnly hb u hu]
      rfl
    · have hrest := splitInside_of_pairsOnly hb t ((pairsOnly_cons_of_ne hc).mp ht)
      obtain ⟨d, s, hds⟩ := List.exists_cons_of_ne_nil (List.append_ne_nil_of_right_ne_nil t
        (List.cons_ne_nil q.closing []))
      rw [hds] at hrest
      rw [List.cons_append, hds, splitInside, if_neg hplain, if_neg hc, hrest]
      rfl

theorem split_of_isQuoted (hb : q.backslashEscapes = false) {s : List Char}
    (hs : q.isQuoted s = true) : q.split s = [s] := by
  obtain ⟨t, rfl, ht⟩ := isQuoted_iff.mp hs
  rw [split, if_pos rfl, splitInside_of_pairsOnly hb t ht]
  rfl

theorem isQuoted_iff_closes (hb : q.backslashEscapes = false) {s : List Char} :
    q.isQuoted s = true ↔ ∃ body, s = q.opening :: body ∧ q.rule.Closes body := by
  rw [isQuoted_iff]
  constructor
  · rintro ⟨t, rfl, ht⟩
    exact ⟨t ++ [q.closing], rfl, (closes_iff_pairsOnly (r := q.rule) hb _).mpr ⟨t, rfl, ht⟩⟩
  · rintro ⟨body, rfl, hbody⟩
    obtain ⟨t, rfl, ht⟩ := (closes_iff_pairsOnly (r := q.rule) hb body).mp hbody
    exact ⟨t, rfl, ht⟩

/-- **What passes for quoted is quoted**, where no backslash escapes. The test takes the pairs of
closing characters away and looks whether one is left; a reader goes from the opening character
past the pairs to the closing character that stands alone, and has to end with the text. Both say
the same, and then the text is its own only segment: writing it as one name and segment by segment
comes to the same. -/
theorem isQuoted_iff_scan (q : Quoting) (hb : q.backslashEscapes = false) (s : String) :
    (q.isQuoted s.toList = true ↔
      ∃ inner, s.toList = q.opening :: (inner ++ [q.closing]) ∧
        q.closing ∉ withoutPairs q.closing inner) ∧
    (q.isQuoted s.toList = true ↔
      2 ≤ s.length ∧ ∃ body, s.toList = q.opening :: body ∧ q.rule.Closes body) ∧
    (q.isQuoted s.toList = true →
      q.split s.toList = [s.toList] ∧
      ['.'].intercalate ((q.split s.toList).map q.quoteChars) = s.toList ∧
      q.quoteQualified s = s) := by
  refine ⟨?_, ?_, ?_⟩
  · rw [isQuoted_iff]
    exact exists_congr fun inner => and_congr_right fun _ =>
      pairsOnly_iff_not_mem_withoutPairs q.closing inner
  · rw [isQuoted_iff_closes hb]
    refine ⟨fun h => ⟨?_, h⟩, And.right⟩
    obtain ⟨body, hs, hbody⟩ := h
    obtain ⟨t, rfl, -⟩ := (closes_iff_pairsOnly (r := q.rule) hb body).mp hbody
    rw [← String.length_toList, hs, List.length_cons, List.length_append, List.length_singleton]
    omega
  · intro hs
    have hsplit := split_of_isQuoted hb hs
    refine ⟨hsplit, ?_, ?_⟩
    · rw [hsplit, List.map_singleton, List.intercalate_singleton, quoteChars_of_isQuoted hs]
    · rw [quoteQualified, quoteQualifiedChars, if_pos hs, String.ofList_toList]

/-- Brackets around a dot, two closing ones in the middle and two more in front of the last. -/
theorem isQuoted_iff_scan_of_brackets :
    (⟨'[', ']', .always, false⟩ : Quoting).isQuoted "[a]].b]]]".toList = true ∧
      (⟨'[', ']', .always, false⟩ : Quoting).split "[a]].b]]]".toList = ["[a]].b]]]".toList] ∧
      (⟨'[', ']', .always, false⟩ : Quoting).quoteQualified "[a]].b]]]" = "[a]].b]]]" := by
  have hs : (⟨'[', ']', .always, false⟩ : Quoting).isQuoted "[a]].b]]]".toList = true := by decide
  obtain ⟨-, -, hwhole⟩ := isQuoted_iff_scan ⟨'[', ']', .always, false⟩ rfl "[a]].b]]]"
  obtain ⟨hsplit, -, hsame⟩ := hwhole hs
  exact ⟨hs, hsplit, hsame⟩

end Quoting

end SqlDialect
