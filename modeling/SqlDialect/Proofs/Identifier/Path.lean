import SqlDialect.Proofs.Identifier.Qualified
import SqlDialect.Proofs.Text.Nesting
/-!
# Names behind identifiers

`readName?` reads one quoted identifier and takes its escapes back, and `readPath?`
goes on to the next one as long as a dot follows. So a text is read as the path of an
object: one name, or a name and those of what it belongs to.

* `unquote_quote`: quoting keeps the name. It can be read back, so different names
  are written differently, and quoting what is quoted changes nothing.
* `readPath?_quoteQualifiedChars_iff`: a name that is written as a dotted one is read as
  itself exactly if no dot in it stands outside quotes and it does not pass for quoted.

The second fact says no for two sorts of names. Where the name falls into segments, a dot
follows the first of them (`intercalate_split`). Where it is written as it stands, its
first character is taken for the opening quote, and the reader would have to give back
that character and then the very text it reads. It cannot: a quote that is given back was
written with two characters, so the reader falls behind what it gives back
(`read?_ne_of_pairs`).
-/

namespace SqlDialect

namespace Text.QuoteRule

variable {r : QuoteRule}

/-- A character that is written with two characters between quotes. -/
def IsPair (r : QuoteRule) (c : Char) : Prop := c = r.closing ∨ c = '\\' ∧ r.backslash = true

theorem exists_of_read?_pair {c : Char} (hc : r.IsPair c) {s name rest : List Char}
    (h : r.read? s = some (c :: name, rest)) :
    ∃ d t, s = d :: c :: t ∧ r.IsPair d ∧ r.read? t = some (name, rest) := by
  match s with
  | [] => cases h
  | [x] =>
    rw [read?] at h
    split at h
    · cases h
    · split at h <;> cases h
  | x :: d :: t =>
    by_cases hx : x = '\\' ∧ r.backslash = true
    · rw [read?, if_pos hx] at h
      obtain ⟨inner, hname, ht⟩ := map_cons_eq_some.mp h
      obtain ⟨rfl, rfl⟩ := List.cons.inj hname
      exact ⟨x, t, rfl, Or.inr hx, ht⟩
    · by_cases hclosing : x = r.closing
      · rw [read?, if_neg hx, if_pos hclosing] at h
        split at h
        · rename_i hd
          obtain ⟨inner, hname, ht⟩ := map_cons_eq_some.mp h
          obtain ⟨rfl, rfl⟩ := List.cons.inj hname
          exact ⟨c, t, by rw [hd, hclosing], hc, ht⟩
        · cases h
      · -- a plain character is no pair
        rw [read?_plain hclosing hx] at h
        obtain ⟨inner, hname, -⟩ := map_cons_eq_some.mp h
        obtain ⟨rfl, -⟩ := List.cons.inj hname
        rcases hc with hc | hc
        · exact absurd hc hclosing
        · exact absurd hc hx

/-- **The reader falls behind.** It does not give back pairs and then the text that it
reads, up to a place where no pair stands. -/
theorem read?_ne_of_pairs {v more rest : List Char} (hv : ∀ c ∈ v.head?, ¬r.IsPair c) :
    ∀ (u : List Char) {front : List Char}, front ≠ [] → (∀ c ∈ front, r.IsPair c) →
      r.read? (u ++ v) ≠ some (front ++ u ++ more, rest)
  | u, [], hne, _ => absurd rfl hne
  | u, c :: front, _, hfront => by
    intro h
    have hc : r.IsPair c := hfront c (List.mem_cons_self ..)
    obtain ⟨d, t, hs, hd, ht⟩ := exists_of_read?_pair hc h
    match u with
    | [] =>
      rw [List.nil_append] at hs
      exact hv d (by rw [hs]; rfl) hd
    | [x] =>
      have hv' : v = c :: t := (List.cons.inj hs).2
      exact hv c (by rw [hv']; rfl) hc
    | x :: y :: u =>
      rw [List.cons_append, List.cons_append, List.cons.injEq, List.cons.injEq] at hs
      obtain ⟨rfl, rfl, rfl⟩ := hs
      have hpairs : ∀ e ∈ front ++ [x, y], r.IsPair e := by
        intro e he
        rcases List.mem_append.mp he with he | he
        · exact hfront e (List.mem_cons_of_mem _ he)
        · rcases List.mem_cons.mp he with rfl | he
          · exact hd
          · rw [List.mem_singleton.mp he]
            exact hc
      have hread : r.read? (u ++ v) = some (front ++ [x, y] ++ u ++ more, rest) := by
        rw [ht]
        simp
      exact read?_ne_of_pairs hv u (by simp) hpairs hread

end Text.QuoteRule

namespace Quoting

/-- The name that a quoted identifier stands for, and what follows it. -/
def readName? (q : Quoting) : List Char → Option (List Char × List Char)
  | [] => none
  | c :: s => if c = q.opening then q.rule.read? s else none

/-- The name that a text stands for which is one quoted identifier. -/
def unquote? (q : Quoting) (s : List Char) : Option (List Char) :=
  match q.readName? s with
  | some (name, []) => some name
  | _ => none

theorem length_readName?_lt {q : Quoting} {s name rest : List Char}
    (h : q.readName? s = some (name, rest)) : rest.length < s.length := by
  cases s with
  | nil => cases h
  | cons c s =>
    rw [readName?] at h
    split at h
    · exact Nat.lt_succ_of_lt (Text.QuoteRule.length_read?_lt h)
    · cases h

/-- The names that quoted identifiers with dots between them stand for, and what follows
the last one. -/
def readPath? (q : Quoting) (s : List Char) : Option (List (List Char) × List Char) :=
  match h : q.readName? s with
  | none => none
  | some (name, '.' :: rest) =>
    have := length_readName?_lt h
    (readPath? q rest).map fun p => (name :: p.1, p.2)
  | some (name, rest) => some ([name], rest)
termination_by s.length
decreasing_by simp only [List.length_cons] at this; omega

variable {q : Quoting}

/-! ### One name -/

theorem readName?_wrap (hq : q.closing ≠ '\\') (s : List Char) {rest : List Char}
    (hrest : rest.head? ≠ some q.closing) : q.readName? (q.wrap s ++ rest) = some (s, rest) := by
  rw [wrap, List.cons_append, List.cons_append, readName?, if_pos rfl, List.append_assoc]
  exact Text.QuoteRule.read?_escape (r := q.rule) hq s hrest

theorem unquote?_wrap (hq : q.closing ≠ '\\') (s : List Char) : q.unquote? (q.wrap s) = some s := by
  have hname := @readName?_wrap q hq s [] (by simp)
  rw [List.append_nil] at hname
  rw [unquote?, hname]

theorem wrap_injective (hq : q.closing ≠ '\\') : Function.Injective q.wrap := by
  intro s t h
  have hs := unquote?_wrap hq s
  rw [h, unquote?_wrap hq t] at hs
  exact (Option.some.inj hs).symm

/-- Names that do not stand between quotes are told apart by how they are written. -/
theorem quoteChars_inj (hq : q.closing ≠ '\\') {s t : List Char} (hs : q.isQuoted s = false)
    (ht : q.isQuoted t = false) (h : q.quoteChars s = q.quoteChars t) : s = t := by
  by_cases hns : q.needsQuoting s = true
  · by_cases hnt : q.needsQuoting t = true
    · rw [quoteChars_eq_wrap hs hns, quoteChars_eq_wrap ht hnt] at h
      exact wrap_injective hq h
    · -- only one of the two is put between quotes
      rw [quoteChars_eq_wrap hs hns,
        quoteChars_of_not_needsQuoting (Bool.eq_false_iff.mpr hnt)] at h
      rw [← h, isQuoted_wrap] at ht
      cases ht
  · rw [quoteChars_of_not_needsQuoting (Bool.eq_false_iff.mpr hns)] at h
    by_cases hnt : q.needsQuoting t = true
    · rw [quoteChars_eq_wrap ht hnt] at h
      rw [h, isQuoted_wrap] at hs
      cases hs
    · rw [quoteChars_of_not_needsQuoting (Bool.eq_false_iff.mpr hnt)] at h
      exact h

/-- **Quoting keeps the name.** Quoting twice is quoting once. A name that is put between
quotes is read back from them. So of two names that do not stand between quotes, both are
written the same only if they are the same. -/
theorem unquote_quote (q : Quoting) (hq : q.closing ≠ '\\') (x : String) :
    q.quote (q.quote x) = q.quote x ∧
      (q.isQuoted x.toList = false → q.needsQuoting x.toList = true →
        q.unquote? (q.quote x).toList = some x.toList) ∧
      ∀ y : String, q.isQuoted x.toList = false → q.isQuoted y.toList = false →
        q.quote x = q.quote y → x = y := by
  have htoList (z : String) : (q.quote z).toList = q.quoteChars z.toList := String.toList_ofList
  refine ⟨?_, ?_, ?_⟩
  · rw [← String.toList_inj, htoList, htoList, quoteChars_quoteChars]
  · intro hx hn
    rw [htoList, quoteChars_eq_wrap hx hn]
    exact unquote?_wrap hq x.toList
  · intro y hx hy h
    rw [← String.toList_inj, htoList, htoList] at h
    exact String.toList_inj.mp (quoteChars_inj hq hx hy h)

/-- Brackets, and a name with a backslash that ends with the closing one. -/
theorem unquote_quote_of_brackets :
    (⟨'[', ']', .always, true⟩ : Quoting).quote "a\\b]" = "[a\\\\b]]]" ∧
      (⟨'[', ']', .always, true⟩ : Quoting).quote "[a\\\\b]]]" = "[a\\\\b]]]" ∧
      (⟨'[', ']', .always, true⟩ : Quoting).unquote? "[a\\\\b]]]".toList =
        some "a\\b]".toList ∧
      (⟨'[', ']', .always, true⟩ : Quoting).quote "a\\b]" ≠
        (⟨'[', ']', .always, true⟩ : Quoting).quote "a\\b" := by
  have hquote : (⟨'[', ']', .always, true⟩ : Quoting).quote "a\\b]" = "[a\\\\b]]]" := by decide
  obtain ⟨htwice, hread, hinj⟩ := unquote_quote ⟨'[', ']', .always, true⟩ (by decide) "a\\b]"
  have hback := hread (by decide) rfl
  rw [hquote] at htwice hback
  exact ⟨hquote, htwice, hback,
    fun h => absurd (hinj "a\\b" (by decide) (by decide) h) (by decide)⟩

/-! ### Paths -/

theorem readPath?_of_dot {s name rest : List Char} (h : q.readName? s = some (name, '.' :: rest)) :
    q.readPath? s = (q.readPath? rest).map fun p => (name :: p.1, p.2) := by
  rw [readPath?]
  split
  · rename_i hnone
    rw [hnone] at h
    cases h
  · rename_i hsome
    rw [hsome] at h
    cases h
    rfl
  · rename_i hdot hsome
    rw [hsome] at h
    cases h
    exact absurd rfl (hdot _)

theorem readPath?_of_end {s name rest : List Char} (h : q.readName? s = some (name, rest))
    (hrest : rest.head? ≠ some '.') : q.readPath? s = some ([name], rest) := by
  rw [readPath?]
  split
  · rename_i hnone
    rw [hnone] at h
    cases h
  · rename_i hsome
    rw [hsome] at h
    cases h
    exact absurd rfl hrest
  · rename_i hsome
    rw [hsome] at h
    cases h
    rfl

/-- A path holds a name. -/
theorem readPath?_ne_nil (s rest : List Char) : q.readPath? s ≠ some ([], rest) := by
  intro h
  rw [readPath?] at h
  split at h
  · cases h
  · obtain ⟨p, -, hp⟩ := Option.map_eq_some_iff.mp h
    cases hp
  · cases h

theorem readPath?_eq_singleton_iff {s name rest : List Char} :
    q.readPath? s = some ([name], rest) ↔
      q.readName? s = some (name, rest) ∧ rest.head? ≠ some '.' := by
  constructor
  · intro h
    cases hname : q.readName? s with
    | none =>
      rw [readPath?] at h
      split at h <;> simp_all
    | some p =>
      obtain ⟨name', rest'⟩ := p
      by_cases hdot : rest'.head? = some '.'
      · obtain ⟨rest'', rfl⟩ := List.head?_eq_some_iff.mp hdot
        rw [readPath?_of_dot hname] at h
        obtain ⟨⟨path, end'⟩, hp, heq⟩ := Option.map_eq_some_iff.mp h
        cases heq
        exact absurd hp (readPath?_ne_nil _ _)
      · rw [readPath?_of_end hname hdot] at h
        cases h
        exact ⟨rfl, hdot⟩
  · rintro ⟨hname, hrest⟩
    exact readPath?_of_end hname hrest

/-! ### The segments of a name -/

theorem extend_ne_nil (c : Char) (ps : List (List Char)) : extend c ps ≠ [] := by
  cases ps <;> simp [extend]

theorem split_ne_nil (s : List Char) : q.split s ≠ [] := by
  cases s with
  | nil => simp [split]
  | cons c s =>
    rw [split]
    split
    · exact extend_ne_nil c _
    · split
      · simp
      · exact extend_ne_nil c _

theorem splitInside_ne_nil (s : List Char) : q.splitInside s ≠ [] := by
  match s with
  | [] => simp [splitInside]
  | [c] => simp [splitInside]
  | c :: d :: s =>
    rw [splitInside]
    split
    · exact extend_ne_nil c _
    · split
      · split <;> exact extend_ne_nil c _
      · exact extend_ne_nil c _

open Text.Quotes (intercalate_extend)

mutual

/-- **Nothing is lost** when a name falls into its segments. -/
theorem intercalate_split : ∀ s : List Char, ['.'].intercalate (q.split s) = s
  | [] => rfl
  | c :: s => by
    rw [split]
    split
    · rw [intercalate_extend c (splitInside_ne_nil s), intercalate_splitInside s]
    · split
      · rename_i hdot
        obtain ⟨piece, pieces, hs⟩ := List.exists_cons_of_ne_nil (split_ne_nil (q := q) s)
        have ih := intercalate_split s
        rw [hs] at ih ⊢
        rw [List.intercalate_cons_cons, ih, hdot]
        rfl
      · rw [intercalate_extend c (split_ne_nil s), intercalate_split s]

theorem intercalate_splitInside : ∀ s : List Char, ['.'].intercalate (q.splitInside s) = s
  | [] => rfl
  | [c] => rfl
  | c :: d :: s => by
    rw [splitInside]
    split
    · rw [intercalate_extend c (extend_ne_nil d _), intercalate_extend d (splitInside_ne_nil s),
        intercalate_splitInside s]
    · split
      · split
        · rw [intercalate_extend c (extend_ne_nil d _),
            intercalate_extend d (splitInside_ne_nil s), intercalate_splitInside s]
        · rw [intercalate_extend c (split_ne_nil _), intercalate_split (d :: s)]
      · rw [intercalate_extend c (splitInside_ne_nil _), intercalate_splitInside (d :: s)]

end

/-- A name that does not pass for quoted, and in which no dot stands outside quotes. -/
structure Undivided (q : Quoting) (s : List Char) : Prop where
  unquoted : q.isQuoted s = false
  whole : q.split s = [s]

instance (q : Quoting) (s : List Char) : Decidable (q.Undivided s) :=
  decidable_of_iff (q.isQuoted s = false ∧ q.split s = [s])
    ⟨fun h => ⟨h.1, h.2⟩, fun h => ⟨h.unquoted, h.whole⟩⟩

/-! ### What is read of a written name -/

section

variable {t v : List Char}

theorem quoteChars_of_always (ha : q.reserve = .always) (ht : q.isQuoted t = false) :
    q.quoteChars t = q.wrap t := by
  refine quoteChars_eq_wrap ht ?_
  rw [needsQuoting, ha]

theorem Undivided.readPath?_eq (hq : q.closing ≠ '\\') (ha : q.reserve = .always)
    (ht : q.Undivided t) (hclosing : v.head? ≠ some q.closing) (hdot : v.head? ≠ some '.') :
    q.readPath? (q.quoteQualifiedChars t ++ v) = some ([t], v) := by
  have hwrap : q.quoteQualifiedChars t = q.wrap t := by
    rw [quoteQualifiedChars, ht.unquoted, if_neg Bool.false_ne_true, ht.whole, List.map_singleton,
      List.intercalate_singleton, quoteChars_of_always ha ht.unquoted]
  rw [hwrap]
  exact readPath?_of_end (readName?_wrap hq t hclosing) hdot

/-- A name that is written as it stands, or begins so, is not what is read. -/
theorem readName?_ne_self (hsame : q.opening = q.closing) (hv : ∀ c ∈ v.head?, ¬q.rule.IsPair c)
    (u more rest : List Char) :
    q.readName? (q.opening :: u ++ v) ≠ some (q.opening :: u ++ more, rest) := by
  rw [List.cons_append, readName?, if_pos rfl]
  have hopening : q.rule.IsPair q.opening := Or.inl hsame
  exact Text.QuoteRule.read?_ne_of_pairs hv u (List.cons_ne_nil q.opening [])
    (List.forall_mem_singleton.mpr hopening)

theorem exists_opening_of_isQuoted (ht : q.isQuoted t = true) : ∃ u, t = q.opening :: u := by
  obtain ⟨u, rfl, -⟩ := isQuoted_iff.mp ht
  exact ⟨_, rfl⟩

theorem readName?_ne_of_isQuoted (hsame : q.opening = q.closing)
    (hv : ∀ c ∈ v.head?, ¬q.rule.IsPair c) (ht : q.isQuoted t = true) (rest : List Char) :
    q.readName? (q.quoteQualifiedChars t ++ v) ≠ some (t, rest) := by
  obtain ⟨u, hu⟩ := exists_opening_of_isQuoted ht
  have hself := readName?_ne_self hsame hv u [] rest
  rw [List.append_nil] at hself
  rw [quoteQualifiedChars, if_pos ht, hu]
  exact hself

theorem not_isPair_dot (hq : q.HasMarks) : ¬q.rule.IsPair '.' := by
  rintro (h | h)
  · exact hq.closing.1 h.symm
  · exact absurd h.1 (by decide)

/-- Of a name with several segments the first is read, with a dot behind it, or something that does
not begin like the name. -/
theorem readPath?_ne_of_split (hq : q.HasMarks) (hsame : q.opening = q.closing)
    (ha : q.reserve = .always) (ht : q.isQuoted t = false) {piece next : List Char}
    {pieces : List (List Char)} (hsplit : q.split t = piece :: next :: pieces)
    (rest : List Char) : q.readPath? (q.quoteQualifiedChars t ++ v) ≠ some ([t], rest) := by
  intro h
  obtain ⟨hname, hrest⟩ := readPath?_eq_singleton_iff.mp h
  have hjoin : piece ++ '.' :: ['.'].intercalate (next :: pieces) = t := by
    have hlossless := intercalate_split (q := q) t
    rw [hsplit, List.intercalate_cons_cons, List.append_assoc] at hlossless
    exact hlossless
  have hwritten : q.quoteQualifiedChars t ++ v = q.quoteChars piece ++
      '.' :: (['.'].intercalate ((next :: pieces).map q.quoteChars) ++ v) := by
    rw [quoteQualifiedChars, ht, if_neg Bool.false_ne_true, hsplit, List.map_cons, List.map_cons,
      List.intercalate_cons_cons, List.append_assoc, List.append_assoc]
    rfl
  rw [hwritten] at hname
  by_cases hpiece : q.isQuoted piece = true
  · obtain ⟨u, hu⟩ := exists_opening_of_isQuoted hpiece
    rw [quoteChars_of_isQuoted hpiece, ← hjoin, hu] at hname
    refine readName?_ne_self hsame ?_ u _ rest hname
    rintro c ⟨⟩
    exact not_isPair_dot hq
  · have hpiece : q.isQuoted piece = false := Bool.eq_false_iff.mpr hpiece
    rw [quoteChars_of_always ha hpiece, readName?_wrap hq.closing.2.1 piece] at hname
    · cases hname
      exact hrest rfl
    · intro hclosing
      exact hq.closing.1 (Option.some.inj hclosing).symm

/-- **When a written name is read as itself**, in front of anything that does not go on with it: if
the name is not divided and does not pass for quoted. -/
theorem readPath?_quoteQualifiedChars_iff (hq : q.HasMarks) (hsame : q.opening = q.closing)
    (ha : q.reserve = .always) (hv : ∀ c ∈ v.head?, c ≠ '.' ∧ ¬q.rule.IsPair c) :
    (∃ rest, q.readPath? (q.quoteQualifiedChars t ++ v) = some ([t], rest)) ↔ q.Undivided t := by
  constructor
  · rintro ⟨rest, h⟩
    have ht : q.isQuoted t = false := by
      rw [Bool.eq_false_iff]
      intro ht
      have hname := (readPath?_eq_singleton_iff.mp h).1
      exact readName?_ne_of_isQuoted hsame (fun c hc => (hv c hc).2) ht rest hname
    refine ⟨ht, ?_⟩
    match hsplit : q.split t with
    | [] => exact absurd hsplit (split_ne_nil t)
    | [piece] =>
      have hjoin := intercalate_split (q := q) t
      rw [hsplit, List.intercalate_singleton] at hjoin
      rw [hjoin]
    | piece :: next :: pieces => exact absurd h (readPath?_ne_of_split hq hsame ha ht hsplit rest)
  · intro ht
    refine ⟨v, ht.readPath?_eq hq.closing.2.1 ha ?_ ?_⟩
    · intro h
      exact (hv _ h).2 (Or.inl rfl)
    · intro h
      exact (hv _ h).1 rfl

end

end Quoting

end SqlDialect
