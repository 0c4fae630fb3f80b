import SqlDialect.Proofs.Identifier.Safety
/-!
# Dotted names

A dotted name is put together from segments. A `Segment` is what `quote` writes for
a name, or a text that a reader takes in at one go because it has no dot and opens
no quotes.

`quoteQualified_join`: the scanner finds exactly the segments again, whatever stands
inside their quotes, so quoting the dotted name is quoting each segment, and doing
it twice changes nothing.

Between quotes the scanner undoes `escapeChar` one character at a time
(`splitInside_escapeChar`), so it is at the closing character only where `wrap` put
it. The test of the whole name does not take several segments for one quoted
identifier, because the closing character of the first has a dot behind it
(`isQuoted_append_dot`).
-/

namespace SqlDialect.Quoting

/-- A part of a dotted name: a written identifier, or a text without dots and
opening quotes. -/
inductive Segment (q : Quoting) : List Char → Prop
  | written {s : List Char} (hs : q.isQuoted s = false) : Segment q (q.quoteChars s)
  | raw {s : List Char} (hdot : '.' ∉ s) (ho : q.opening ∉ s) : Segment q s

variable {q : Quoting}

/-! ### A quoted identifier is recognised -/

theorem pairsOnly_escapeChar (c : Char) (s : List Char) :
    pairsOnly q.closing (q.escapeChar c ++ s) = pairsOnly q.closing s := by
  by_cases hc : c = q.closing
  · subst hc
    rw [escapeChar, if_pos rfl, List.cons_append, List.cons_append, List.nil_append, pairsOnly,
      if_pos rfl, beq_self_eq_true, Bool.true_and]
  · have hplain (t : List Char) : pairsOnly q.closing (c :: t) = pairsOnly q.closing t :=
      Bool.eq_iff_iff.mpr (Text.QuoteRule.pairsOnly_cons_of_ne hc)
    rw [escapeChar, if_neg hc]
    split
    · rename_i hb
      obtain ⟨rfl, -⟩ := hb
      rw [List.cons_append, List.cons_append, List.nil_append, hplain, hplain]
    · exact hplain s

theorem pairsOnly_escape (s t : List Char) :
    pairsOnly q.closing (s.flatMap q.escapeChar ++ t) = pairsOnly q.closing t := by
  induction s with
  | nil => rfl
  | cons c s ih => rw [List.flatMap_cons, List.append_assoc, pairsOnly_escapeChar, ih]

theorem isQuoted_wrap (s : List Char) : q.isQuoted (q.wrap s) = true := by
  refine isQuoted_iff.mpr ⟨s.flatMap q.escapeChar, rfl, ?_⟩
  rw [← List.append_nil (s.flatMap q.escapeChar), pairsOnly_escape]
  rfl

/-- Quoting what is written already changes nothing. -/
theorem quoteChars_quoteChars (s : List Char) : q.quoteChars (q.quoteChars s) = q.quoteChars s := by
  by_cases hs : q.isQuoted s = true
  · rw [quoteChars_of_isQuoted hs, quoteChars_of_isQuoted hs]
  · by_cases hn : q.needsQuoting s = true
    · rw [quoteChars_eq_wrap (Bool.eq_false_iff.mpr hs) hn,
        quoteChars_of_isQuoted (isQuoted_wrap s)]
    · have hn : q.needsQuoting s = false := Bool.eq_false_iff.mpr hn
      rw [quoteChars_of_not_needsQuoting hn, quoteChars_of_not_needsQuoting hn]

/-- A quoted identifier with a dot behind it does not pass for one that goes on. -/
theorem isQuoted_append_dot (hq : q.HasMarks) (s rest : List Char) :
    q.isQuoted (q.wrap s ++ '.' :: rest) = false := by
  rw [Bool.eq_false_iff]
  intro h
  obtain ⟨t, ht, hpairs⟩ := isQuoted_iff.mp h
  rw [wrap, List.cons_append, List.cons_append, List.cons.injEq, List.append_assoc,
    List.singleton_append] at ht
  -- the text ends with a closing character, so something follows the dot
  rcases List.eq_nil_or_concat rest with rfl | ⟨rest, c, rfl⟩
  · have hlast := congrArg List.getLast? ht.2
    simp only [List.getLast?_append, List.getLast?_cons_cons, List.getLast?_singleton,
      Option.some_or, Option.some.injEq] at hlast
    exact hq.closing.1 hlast.symm
  · have hsides : (s.flatMap q.escapeChar ++ q.closing :: '.' :: rest) ++ [c] =
        t ++ [q.closing] := by
      rw [← ht.2, List.append_assoc, List.cons_append, List.cons_append, List.concat_eq_append]
    obtain ⟨hinit, -⟩ := List.append_inj' hsides rfl
    rw [← hinit, pairsOnly_escape, pairsOnly, if_pos rfl,
      beq_false_of_ne hq.closing.1.symm] at hpairs
    cases hpairs

/-! ### The scanner -/

theorem split_raw {s : List Char} (hdot : '.' ∉ s) (ho : q.opening ∉ s) : q.split s = [s] := by
  induction s with
  | nil => rfl
  | cons c s ih =>
    rw [List.mem_cons, not_or] at hdot ho
    rw [split, if_neg (Ne.symm ho.1), if_neg (Ne.symm hdot.1), ih hdot.2 ho.2, extend]

theorem split_raw_append (hq : q.opening ≠ '.') {s : List Char} (hdot : '.' ∉ s)
    (ho : q.opening ∉ s) (rest : List Char) : q.split (s ++ '.' :: rest) = s :: q.split rest := by
  induction s with
  | nil => rw [List.nil_append, split, if_neg hq.symm, if_pos rfl]
  | cons c s ih =>
    rw [List.mem_cons, not_or] at hdot ho
    rw [List.cons_append, split, if_neg (Ne.symm ho.1), if_neg (Ne.symm hdot.1),
      ih hdot.2 ho.2, extend]

/-- What the scanner has passed is put in front of the first piece of the rest. -/
theorem foldr_extend_cons (s piece : List Char) (pieces : List (List Char)) :
    s.foldr extend (piece :: pieces) = (s ++ piece) :: pieces := by
  induction s with
  | nil => rfl
  | cons c s ih => rw [List.foldr_cons, ih, extend, List.cons_append]

theorem splitInside_escapeChar (hq : q.closing ≠ '\\') (c d : Char) (s : List Char) :
    q.splitInside (q.escapeChar c ++ d :: s) =
      (q.escapeChar c).foldr extend (q.splitInside (d :: s)) := by
  unfold escapeChar
  split
  · rename_i hc
    subst hc
    rw [List.cons_append, List.cons_append, List.nil_append, splitInside, if_neg fun h => hq h.1,
      if_pos rfl, if_pos rfl]
    rfl
  · rename_i hc
    split
    · rename_i hb
      obtain ⟨rfl, hb⟩ := hb
      rw [List.cons_append, List.cons_append, List.nil_append, splitInside, if_pos ⟨rfl, hb⟩]
      rfl
    · rename_i hb
      rw [List.singleton_append, splitInside, if_neg hb, if_neg hc]
      rfl

theorem splitInside_escape (hq : q.closing ≠ '\\') (s : List Char) (d : Char) (rest : List Char) :
    q.splitInside (s.flatMap q.escapeChar ++ d :: rest) =
      (s.flatMap q.escapeChar).foldr extend (q.splitInside (d :: rest)) := by
  induction s with
  | nil => rfl
  | cons c s ih =>
    rw [List.flatMap_cons, List.append_assoc, List.foldr_append, ← ih]
    cases hrest : s.flatMap q.escapeChar ++ d :: rest with
    | nil => simp at hrest
    | cons e t => exact splitInside_escapeChar hq c e t

theorem split_wrap (hq : q.HasMarks) (s : List Char) : q.split (q.wrap s) = [q.wrap s] := by
  rw [wrap, List.cons_append, split, if_pos rfl, splitInside_escape hq.closing.2.1, splitInside,
    foldr_extend_cons, extend]

theorem split_wrap_append (hq : q.HasMarks) (s rest : List Char) :
    q.split (q.wrap s ++ '.' :: rest) = q.wrap s :: q.split rest := by
  have hclose : q.splitInside (q.closing :: '.' :: rest) = [q.closing] :: q.split rest := by
    rw [splitInside, if_neg fun h => hq.closing.2.1 h.1, if_pos rfl, if_neg hq.closing.1.symm,
      split, if_neg hq.opening.1.symm, if_pos rfl, extend]
  rw [wrap, List.cons_append, List.cons_append, split, if_pos rfl, List.append_assoc,
    List.singleton_append, splitInside_escape hq.closing.2.1, hclose, foldr_extend_cons, extend]

/-! ### Segments -/

theorem not_mem_of_isPlainWord {s : List Char} (hs : isPlainWord s = true) {c : Char}
    (hc : isWordChar c = false) : c ∉ s := by
  cases s with
  | nil => exact List.not_mem_nil
  | cons d s =>
    rw [isPlainWord, Bool.and_eq_true, List.all_eq_true] at hs
    intro hmem
    rw [hs.2 c hmem] at hc
    cases hc

/-- A segment is a wrapped text, or has no dot and no opening quote. -/
theorem Segment.wrap_or_raw (hq : q.HasMarks) {s : List Char} (hs : q.Segment s) :
    (∃ t, s = q.wrap t) ∨ '.' ∉ s ∧ q.opening ∉ s := by
  cases hs with
  | @written t ht =>
    by_cases hn : q.needsQuoting t = true
    · exact Or.inl ⟨t, quoteChars_eq_wrap ht hn⟩
    · have hn : q.needsQuoting t = false := Bool.eq_false_iff.mpr hn
      obtain ⟨-, -, hword, -⟩ := bareWord_of_not_needsQuoting hn
      rw [quoteChars_of_not_needsQuoting hn]
      exact Or.inr ⟨not_mem_of_isPlainWord hword (by decide),
        not_mem_of_isPlainWord hword hq.opening.2.2⟩
  | raw hdot ho => exact Or.inr ⟨hdot, ho⟩

theorem Segment.split_eq (hq : q.HasMarks) {s : List Char} (hs : q.Segment s) :
    q.split s = [s] := by
  rcases hs.wrap_or_raw hq with ⟨t, rfl⟩ | ⟨hdot, ho⟩
  · exact split_wrap hq t
  · exact split_raw hdot ho

theorem Segment.split_append (hq : q.HasMarks) {s : List Char} (hs : q.Segment s)
    (rest : List Char) : q.split (s ++ '.' :: rest) = s :: q.split rest := by
  rcases hs.wrap_or_raw hq with ⟨t, rfl⟩ | ⟨hdot, ho⟩
  · exact split_wrap_append hq t rest
  · exact split_raw_append hq.opening.1 hdot ho rest

theorem Segment.isQuoted_append (hq : q.HasMarks) {s : List Char} (hs : q.Segment s)
    (rest : List Char) : q.isQuoted (s ++ '.' :: rest) = false := by
  rcases hs.wrap_or_raw hq with ⟨t, rfl⟩ | ⟨-, ho⟩
  · exact isQuoted_append_dot hq t rest
  · rw [Bool.eq_false_iff]
    intro h
    obtain ⟨t, ht, -⟩ := isQuoted_iff.mp h
    cases s with
    | nil => exact hq.opening.1 (List.cons.inj ht).1.symm
    | cons c s => exact ho ((List.cons.inj ht).1 ▸ List.mem_cons_self ..)

/-- Quoting a segment gives a segment. -/
theorem Segment.quoteChars {s : List Char} (hs : q.Segment s) : q.Segment (q.quoteChars s) := by
  cases hs with
  | written ht =>
    rw [quoteChars_quoteChars]
    exact .written ht
  | raw _ ho => exact .written (isQuoted_eq_false_of_not_mem ho)

/-! ### Dotted names -/

/-- **The scanner finds the segments again**, and nothing else. -/
theorem split_intercalate (hq : q.HasMarks) {segments : List (List Char)} (hne : segments ≠ [])
    (hs : ∀ s ∈ segments, q.Segment s) : q.split (['.'].intercalate segments) = segments := by
  induction segments with
  | nil => exact absurd rfl hne
  | cons s segments ih =>
    have hfirst := hs s (List.mem_cons_self ..)
    cases segments with
    | nil =>
      rw [List.intercalate_singleton]
      exact hfirst.split_eq hq
    | cons t segments =>
      rw [List.intercalate_cons_cons, List.append_assoc, List.singleton_append,
        hfirst.split_append hq, ih (by simp) fun u hu => hs u (List.mem_cons_of_mem _ hu)]

theorem quoteQualifiedChars_intercalate (hq : q.HasMarks) {segments : List (List Char)}
    (hne : segments ≠ []) (hs : ∀ s ∈ segments, q.Segment s) :
    q.quoteQualifiedChars (['.'].intercalate segments) =
      ['.'].intercalate (segments.map q.quoteChars) := by
  unfold quoteQualifiedChars
  split
  · rename_i hquoted
    -- only a single segment can stand between quotes as a whole
    match segments with
    | [] => exact absurd rfl hne
    | [s] =>
      rw [List.intercalate_singleton] at hquoted
      rw [List.map_singleton, List.intercalate_singleton, List.intercalate_singleton,
        quoteChars_of_isQuoted hquoted]
    | s :: t :: segments =>
      rw [List.intercalate_cons_cons, List.append_assoc, List.singleton_append,
        (hs s (List.mem_cons_self ..)).isQuoted_append hq] at hquoted
      cases hquoted
  · rw [split_intercalate hq hne hs]

/-- **Dotted names fall into their segments.** The scanner finds the segments that a
name was joined from, quoting the name is quoting each of them, and a name that was
quoted so stays as it is. -/
theorem quoteQualified_join (q : Quoting) (hq : q.HasMarks) (segments : List String)
    (hne : segments ≠ []) (hs : ∀ s ∈ segments, q.Segment s.toList) :
    q.split (".".intercalate segments).toList = segments.map String.toList ∧
      q.quoteQualified (".".intercalate segments) = ".".intercalate (segments.map q.quote) ∧
      q.quoteQualified (".".intercalate (segments.map q.quote)) =
        ".".intercalate (segments.map q.quote) := by
  have hne : segments.map String.toList ≠ [] := mt List.map_eq_nil_iff.mp hne
  have hs : ∀ s ∈ segments.map String.toList, q.Segment s := List.forall_mem_map.mpr hs
  have hquoted : ∀ s ∈ (segments.map String.toList).map q.quoteChars, q.Segment s :=
    List.forall_mem_map.mpr fun s h => (hs s h).quoteChars
  have hjoin : (".".intercalate (segments.map q.quote)).toList =
      ['.'].intercalate ((segments.map String.toList).map q.quoteChars) := by
    simp [quote, Function.comp_def]
  have htwice : ((segments.map String.toList).map q.quoteChars).map q.quoteChars =
      (segments.map String.toList).map q.quoteChars := by
    simp [quoteChars_quoteChars]
  refine ⟨?_, ?_, ?_⟩
  · rw [String.toList_intercalate]
    exact split_intercalate hq hne hs
  · rw [quoteQualified, String.toList_intercalate, ← String.toList_inj, String.toList_ofList,
      hjoin]
    exact quoteQualifiedChars_intercalate hq hne hs
  · rw [quoteQualified, hjoin, quoteQualifiedChars_intercalate hq (by simpa using hne) hquoted,
      htwice, ← String.toList_inj, String.toList_ofList, hjoin]

/-- The first segment holds a dot and a quote, and ends with a backslash. -/
theorem quoteQualified_join_of_dot :
    ClickHouse.quoting.split "`a.``b\\\\`.c\\".toList = ["`a.``b\\\\`".toList, "c\\".toList] ∧
      ClickHouse.quoting.quoteQualified "`a.``b\\\\`.c\\" = "`a.``b\\\\`.`c\\\\`" := by
  have hs : ∀ s ∈ ["`a.``b\\\\`", "c\\"], ClickHouse.quoting.Segment s.toList :=
    List.forall_mem_cons.mpr ⟨.written (s := "a.`b\\".toList) (by decide),
      List.forall_mem_singleton.mpr (.raw (by decide) (by decide))⟩
  obtain ⟨hsplit, hquote, -⟩ := quoteQualified_join _ hasMarks_clickHouse _ (by simp) hs
  exact ⟨hsplit, hquote⟩

end SqlDialect.Quoting
