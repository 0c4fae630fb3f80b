import SqlDialect.Proofs.Identifier.Path
/-!
# Where a name is cut

A dotted name is read character by character, and a `Place` says where the reader stands: outside
quotes, inside them, behind a backslash there, or behind a closing character. The last one may
still turn out to be the first half of a pair, so a place is settled by what has been read and by
nothing that follows.

* `isCut_rest_iff`: a dot divides the segments of a name exactly if the reader comes to it outside
  quotes.
* `slices?_eq`: the segments can be cut out of the text by byte offsets. Every offset stands
  between two characters, and what is cut out are the segments.

The first is an induction along the name, with the segments of what is left at each place
(`rest`): a step of the reader moves one character from there to the first segment (`rest_cons`),
or it is a cut (`rest_dot`). The second follows the scanner that is proved right, with the text in
front of the piece, the piece so far and what is left as one text.
-/

namespace SqlDialect

/-! ### Byte offsets -/

namespace Text

/-- The text between two byte offsets. Nothing, if one of them stands inside a character or past
the end, or if they are in the wrong order. -/
def slice? (s : String) (start stop : Nat) : Option String :=
  if h : (String.Pos.Raw.mk start).isValid s = true ∧ (String.Pos.Raw.mk stop).isValid s = true ∧
      start ≤ stop then
    some (s.extract ⟨⟨start⟩, String.Pos.Raw.isValid_eq_true_iff.mp h.1⟩
      ⟨⟨stop⟩, String.Pos.Raw.isValid_eq_true_iff.mp h.2.1⟩)
  else none

theorem isValid_append (front back : String) :
    (String.Pos.Raw.mk front.utf8ByteSize).isValid (front ++ back) = true := by
  rw [String.Pos.Raw.isValid_eq_true_iff, String.Pos.Raw.isValid_iff_exists_append]
  exact ⟨front, back, rfl, rfl⟩

/-- Offsets behind whole characters cut out what stands between them. -/
theorem slice?_append (front piece back : String) :
    slice? (front ++ piece ++ back) front.utf8ByteSize (front ++ piece).utf8ByteSize =
      some piece := by
  have hstart : (String.Pos.Raw.mk front.utf8ByteSize).isValid (front ++ piece ++ back) = true := by
    rw [String.append_assoc]
    exact isValid_append front (piece ++ back)
  have hstop := isValid_append (front ++ piece) back
  have hle : front.utf8ByteSize ≤ (front ++ piece).utf8ByteSize := by
    rw [String.utf8ByteSize_append]
    omega
  rw [slice?, dif_pos ⟨hstart, hstop, hle⟩, Option.some.injEq, ← String.toByteArray_inj,
    String.toByteArray_extract]
  show (front ++ piece ++ back).toByteArray.extract front.utf8ByteSize
    (front ++ piece).utf8ByteSize = piece.toByteArray
  rw [String.append_assoc, String.toByteArray_append, String.toByteArray_append,
    String.utf8ByteSize_append, ← String.size_toByteArray, ← Nat.add_zero front.toByteArray.size,
    Nat.add_assoc, Nat.zero_add, ByteArray.extract_append_size_add]
  exact ByteArray.extract_append_eq_left String.size_toByteArray.symm

end Text

namespace Quoting

/-! ### Places -/

/-- Where the reader of a name stands. -/
inductive Place
  | outside
  | inside
  /-- Inside, behind a backslash that escapes. -/
  | escaped
  /-- Behind a closing character that ends the quotes unless another one follows. -/
  | closing
  deriving DecidableEq

/-- The place behind one more character. -/
def advance (q : Quoting) : Place → Char → Place
  | .outside, c => if c = q.opening then .inside else .outside
  | .inside, c =>
    if c = '\\' ∧ q.backslashEscapes then .escaped else if c = q.closing then .closing else .inside
  | .escaped, _ => .inside
  | .closing, c =>
    if c = q.closing then .inside else if c = q.opening then .inside else .outside

/-- Behind a text the reader stands outside quotes, if what follows makes no pair with its end. -/
def EndsOutside (q : Quoting) (p : Place) (front : List Char) : Prop :=
  front.foldl q.advance p = .outside ∨ front.foldl q.advance p = .closing

instance (q : Quoting) (p : Place) (front : List Char) : Decidable (q.EndsOutside p front) :=
  inferInstanceAs (Decidable (_ ∨ _))

/-- The segments are divided behind a part of the name. -/
def IsCut (front : List Char) (pieces : List (List Char)) : Prop :=
  ∃ before after, before ≠ [] ∧ after ≠ [] ∧ pieces = before ++ after ∧
    ['.'].intercalate before = front

/-- The segments of what is left at a place. -/
def rest (q : Quoting) : Place → List Char → List (List Char)
  | .outside, s => q.split s
  | .inside, s => q.splitInside s
  | .escaped, [] => [[]]
  | .escaped, c :: s => extend c (q.splitInside s)
  | .closing, [] => [[]]
  | .closing, c :: s => if c = q.closing then extend c (q.splitInside s) else q.split (c :: s)

variable {q : Quoting}

theorem rest_nil (p : Place) : q.rest p [] = [[]] := by
  cases p with
  | outside => rfl
  | inside => rfl
  | escaped => rfl
  | closing => rfl

theorem rest_ne_nil (p : Place) (s : List Char) : q.rest p s ≠ [] := by
  cases p with
  | outside => exact split_ne_nil s
  | inside => exact splitInside_ne_nil s
  | escaped =>
    cases s with
    | nil => simp [rest]
    | cons c s => exact extend_ne_nil c _
  | closing =>
    cases s with
    | nil => simp [rest]
    | cons c s =>
      rw [rest]
      split
      · exact extend_ne_nil c _
      · exact split_ne_nil _

/-- The reader cuts at a dot outside quotes. -/
def CutsAt (q : Quoting) (p : Place) (c : Char) : Prop :=
  c = '.' ∧ c ≠ q.opening ∧ (p = .outside ∨ p = .closing ∧ c ≠ q.closing)

theorem split_cons {c : Char} (hc : ¬(c = '.' ∧ c ≠ q.opening)) (s : List Char) :
    q.split (c :: s) = extend c (q.rest (q.advance .outside c) s) := by
  rw [split, advance]
  by_cases ho : c = q.opening
  · rw [if_pos ho, if_pos ho]
    rfl
  · have hdot : c ≠ '.' := fun h => hc ⟨h, ho⟩
    rw [if_neg ho, if_neg hdot, if_neg ho]
    rfl

theorem splitInside_cons (c : Char) (s : List Char) :
    q.splitInside (c :: s) = extend c (q.rest (q.advance .inside c) s) := by
  cases s with
  | nil =>
    rw [rest_nil]
    rfl
  | cons d s =>
    rw [splitInside, advance]
    by_cases hb : c = '\\' ∧ q.backslashEscapes = true
    · rw [if_pos hb, if_pos hb]
      rfl
    · rw [if_neg hb, if_neg hb]
      by_cases hclosing : c = q.closing
      · rw [if_pos hclosing, if_pos hclosing, rest]
        split <;> rfl
      · rw [if_neg hclosing, if_neg hclosing]
        rfl

/-- A step of the reader that is no cut moves one character to the first segment. -/
theorem rest_cons {p : Place} {c : Char} (hc : ¬q.CutsAt p c) (s : List Char) :
    q.rest p (c :: s) = extend c (q.rest (q.advance p c) s) := by
  cases p with
  | outside => exact split_cons (fun h => hc ⟨h.1, h.2, Or.inl rfl⟩) s
  | inside => exact splitInside_cons c s
  | escaped => rfl
  | closing =>
    rw [rest, advance]
    by_cases hclosing : c = q.closing
    · rw [if_pos hclosing, if_pos hclosing]
      rfl
    · rw [if_neg hclosing, if_neg hclosing]
      exact split_cons (fun h => hc ⟨h.1, h.2, Or.inr ⟨rfl, hclosing⟩⟩) s

/-- A cut ends the segment and leaves the reader outside quotes. -/
theorem rest_dot {p : Place} {c : Char} (hc : q.CutsAt p c) (s : List Char) :
    q.rest p (c :: s) = [] :: q.rest .outside s ∧ q.advance p c = .outside := by
  obtain ⟨hdot, ho, rfl | ⟨rfl, hclosing⟩⟩ := hc
  · rw [rest, split, advance, if_neg ho, if_neg ho, if_pos hdot]
    exact ⟨rfl, rfl⟩
  · have houtside : q.rest .closing (c :: s) = q.split (c :: s) := if_neg hclosing
    rw [houtside, split, advance, if_neg hclosing, if_neg ho, if_neg ho, if_pos hdot]
    exact ⟨rfl, rfl⟩

/-! ### Cuts -/

open Text.Quotes (intercalate_extend)

theorem isCut_extend {c : Char} {front : List Char} {pieces : List (List Char)}
    (hne : pieces ≠ []) : IsCut (c :: front) (extend c pieces) ↔ IsCut front pieces := by
  obtain ⟨piece, pieces, rfl⟩ := List.exists_cons_of_ne_nil hne
  constructor
  · rintro ⟨before, after, hbefore, hafter, hpieces, hfront⟩
    obtain ⟨first, before, rfl⟩ := List.exists_cons_of_ne_nil hbefore
    rw [extend, List.cons_append, List.cons.injEq] at hpieces
    obtain ⟨rfl, rfl⟩ := hpieces
    have hjoin : ['.'].intercalate (extend c (piece :: before)) = _ :=
      intercalate_extend c (List.cons_ne_nil piece before)
    rw [extend, hfront] at hjoin
    exact ⟨piece :: before, after, List.cons_ne_nil _ _, hafter, rfl, (List.cons.inj hjoin).2.symm⟩
  · rintro ⟨before, after, hbefore, hafter, hpieces, rfl⟩
    obtain ⟨first, before, rfl⟩ := List.exists_cons_of_ne_nil hbefore
    rw [List.cons_append, List.cons.injEq] at hpieces
    obtain ⟨rfl, rfl⟩ := hpieces
    exact ⟨extend c (piece :: before), after, extend_ne_nil c _, hafter, rfl,
      intercalate_extend c (List.cons_ne_nil piece before)⟩

/-- Nothing is cut in front of a character that belongs to the first segment. -/
theorem not_isCut_nil_extend {c : Char} {pieces : List (List Char)} :
    ¬IsCut [] (extend c pieces) := by
  rintro ⟨before, after, hbefore, hafter, hpieces, hfront⟩
  obtain ⟨first, before, rfl⟩ := List.exists_cons_of_ne_nil hbefore
  cases pieces with
  | nil =>
    rw [extend, List.cons_append, List.cons.injEq] at hpieces
    exact hafter (List.append_eq_nil_iff.mp hpieces.2.symm).2
  | cons piece pieces =>
    rw [extend, List.cons_append, List.cons.injEq] at hpieces
    have hjoin : ['.'].intercalate (extend c (piece :: before)) = _ :=
      intercalate_extend c (List.cons_ne_nil piece before)
    rw [extend, hpieces.1, hfront] at hjoin
    cases hjoin

theorem isCut_nil_cons {pieces : List (List Char)} (hne : pieces ≠ []) :
    IsCut [] ([] :: pieces) :=
  ⟨[[]], pieces, List.cons_ne_nil _ _, hne, rfl, rfl⟩

theorem intercalate_nil_cons {pieces : List (List Char)} (hne : pieces ≠ []) :
    ['.'].intercalate ([] :: pieces) = '.' :: ['.'].intercalate pieces := by
  obtain ⟨piece, pieces, rfl⟩ := List.exists_cons_of_ne_nil hne
  rw [List.intercalate_cons_cons]
  rfl

theorem isCut_dot {front : List Char} {pieces : List (List Char)} :
    IsCut ('.' :: front) ([] :: pieces) ↔ IsCut front pieces := by
  constructor
  · rintro ⟨before, after, hbefore, hafter, hpieces, hfront⟩
    obtain ⟨first, before, rfl⟩ := List.exists_cons_of_ne_nil hbefore
    rw [List.cons_append, List.cons.injEq] at hpieces
    obtain ⟨rfl, rfl⟩ := hpieces
    have hne : before ≠ [] := by
      rintro rfl
      cases hfront
    rw [intercalate_nil_cons hne] at hfront
    exact ⟨before, after, hne, hafter, rfl, (List.cons.inj hfront).2⟩
  · rintro ⟨before, after, hbefore, hafter, rfl, rfl⟩
    exact ⟨[] :: before, after, List.cons_ne_nil _ _, hafter, rfl, intercalate_nil_cons hbefore⟩

theorem cutsAt_dot_iff (ho : q.opening ≠ '.') (hclosing : q.closing ≠ '.') {p : Place} :
    q.CutsAt p '.' ↔ p = .outside ∨ p = .closing :=
  ⟨fun h => h.2.2.imp_right And.left,
    fun h => ⟨rfl, ho.symm, h.imp_right fun h => ⟨h, hclosing.symm⟩⟩⟩

/-- **Dots outside quotes divide a name**, and no others do. -/
theorem isCut_rest_iff (ho : q.opening ≠ '.') (hclosing : q.closing ≠ '.') (front back : List Char)
    (p : Place) : IsCut front (q.rest p (front ++ '.' :: back)) ↔ q.EndsOutside p front := by
  induction front generalizing p with
  | nil =>
    rw [List.nil_append, EndsOutside, List.foldl_nil, ← cutsAt_dot_iff ho hclosing]
    by_cases hcut : q.CutsAt p '.'
    · rw [(rest_dot hcut back).1]
      exact iff_of_true (isCut_nil_cons (rest_ne_nil _ _)) hcut
    · rw [rest_cons hcut]
      exact iff_of_false not_isCut_nil_extend hcut
  | cons c front ih =>
    rw [List.cons_append, EndsOutside, List.foldl_cons]
    by_cases hcut : q.CutsAt p c
    · obtain ⟨hrest, hplace⟩ := rest_dot hcut (front ++ '.' :: back)
      rw [hrest, hplace, hcut.1, isCut_dot]
      exact ih .outside
    · rw [rest_cons hcut, isCut_extend (rest_ne_nil _ _)]
      exact ih (q.advance p c)

/-! ### Cutting by byte offsets -/

/-- The segments cut out of a whole name, from the offset where the current one starts. What is
left of the name begins at `offset`, inside quotes or outside. -/
def slicesFrom? (q : Quoting) (name : String) :
    (start : Nat) → (inside : Bool) → (offset : Nat) → List Char → Option (List String)
  | start, _, _, [] => (Text.slice? name start name.utf8ByteSize).map ([·])
  | start, true, _, [_] => (Text.slice? name start name.utf8ByteSize).map ([·])
  | start, true, offset, c :: d :: s =>
    if c = '\\' ∧ q.backslashEscapes then
      slicesFrom? q name start true (offset + c.utf8Size + d.utf8Size) s
    else if c = q.closing then
      if d = q.closing then slicesFrom? q name start true (offset + c.utf8Size + d.utf8Size) s
      else slicesFrom? q name start false (offset + c.utf8Size) (d :: s)
    else slicesFrom? q name start true (offset + c.utf8Size) (d :: s)
  | start, false, offset, c :: s =>
    if c = q.opening then slicesFrom? q name start true (offset + c.utf8Size) s
    else if c = '.' then do
      let piece ← Text.slice? name start offset
      let pieces ← slicesFrom? q name (offset + 1) false (offset + c.utf8Size) s
      some (piece :: pieces)
    else slicesFrom? q name start false (offset + c.utf8Size) s

/-- The segments of a name, cut out of it by byte offsets. -/
def slices? (q : Quoting) (name : String) : Option (List String) :=
  q.slicesFrom? name 0 false 0 name.toList

def bytes (s : List Char) : Nat := (String.ofList s).utf8ByteSize

theorem bytes_append (s t : List Char) : bytes (s ++ t) = bytes s + bytes t := by
  rw [bytes, String.ofList_append, String.utf8ByteSize_append]
  rfl

theorem bytes_singleton (c : Char) : bytes [c] = c.utf8Size := by
  rw [bytes, ← String.singleton_eq_ofList, String.utf8ByteSize_singleton]

/-- A scanner of a name: what is in front of the current segment, what it has of it, and what is
left, with the offsets where the segment starts and where the rest does. -/
structure StandsAt (name : String) (front piece s : List Char) (start offset : Nat) : Prop where
  name_eq : name.toList = front ++ piece ++ s
  start_eq : start = bytes front
  offset_eq : offset = bytes (front ++ piece)

namespace StandsAt

variable {name : String} {front piece s : List Char} {start offset : Nat} {c : Char}

theorem next (h : StandsAt name front piece (c :: s) start offset) :
    StandsAt name front (piece ++ [c]) s start (offset + c.utf8Size) where
  name_eq := by simp [h.name_eq]
  start_eq := h.start_eq
  offset_eq := by
    rw [← List.append_assoc, bytes_append (front ++ piece), bytes_singleton, ← h.offset_eq]

theorem next_dot (h : StandsAt name front piece ('.' :: s) start offset) :
    StandsAt name (front ++ piece ++ ['.']) [] s (offset + 1) (offset + '.'.utf8Size) := by
  have hoffset : offset + 1 = bytes (front ++ piece ++ ['.']) := by
    rw [bytes_append (front ++ piece), bytes_singleton, ← h.offset_eq]
    rfl
  refine ⟨?_, hoffset, ?_⟩
  · simp [h.name_eq]
  · rw [List.append_nil]
    exact hoffset

theorem slice?_eq (h : StandsAt name front piece s start offset) :
    Text.slice? name start offset = some (String.ofList piece) := by
  have hparts : name = String.ofList front ++ String.ofList piece ++ String.ofList s := by
    rw [← String.ofList_append, ← String.ofList_append, ← h.name_eq, String.ofList_toList]
  rw [h.start_eq, h.offset_eq, hparts, bytes, bytes, String.ofList_append]
  exact Text.slice?_append _ _ _

theorem slice?_end (h : StandsAt name front piece [] start offset) :
    Text.slice? name start name.utf8ByteSize = some (String.ofList piece) := by
  have hsize : name.utf8ByteSize = offset := by
    rw [h.offset_eq, bytes, ← List.append_nil (front ++ piece), ← h.name_eq, String.ofList_toList]
  rw [hsize]
  exact h.slice?_eq

end StandsAt

/-- The segments of what is left, inside quotes or outside. -/
def splitFrom (q : Quoting) (inside : Bool) (s : List Char) : List (List Char) :=
  if inside then q.splitInside s else q.split s

/-- **The segments are cut out by byte offsets**, all of which stand between characters. -/
theorem slicesFrom?_eq {name : String} {start offset : Nat} {inside : Bool} {s : List Char} :
    ∀ {front piece : List Char}, StandsAt name front piece s start offset →
      q.slicesFrom? name start inside offset s =
        some ((piece.foldr extend (q.splitFrom inside s)).map String.ofList) := by
  fun_induction slicesFrom? q name start inside offset s with
  | case1 inside =>
    intro front piece h
    have hend : q.splitFrom inside [] = [[]] := by cases inside <;> rfl
    rw [h.slice?_end, hend, foldr_extend_cons, List.append_nil]
    rfl
  | case2 start offset c =>
    intro front piece h
    have hend : q.splitFrom true [c] = [[c]] := rfl
    rw [h.next.slice?_end, hend, foldr_extend_cons]
    rfl
  | case3 start offset c d s hb ih =>
    intro front piece h
    rw [ih h.next.next, splitFrom, splitFrom, splitInside, if_pos hb]
    simp
  | case4 start offset s hb ih =>
    intro front piece h
    rw [ih h.next.next, splitFrom, splitFrom, splitInside, if_neg hb]
    simp
  | case5 start offset d s hb hd ih =>
    intro front piece h
    rw [ih h.next, splitFrom, splitFrom, splitInside, if_neg hb]
    simp [hd]
  | case6 start offset c d s hb hc ih =>
    intro front piece h
    rw [ih h.next, splitFrom, splitFrom, splitInside, if_neg hb, if_neg hc]
    simp
  | case7 start offset s ih =>
    intro front piece h
    rw [ih h.next, splitFrom, splitFrom, split]
    simp
  | case8 start offset s hc ih =>
    intro front piece h
    have hdot : q.splitFrom false ('.' :: s) = [] :: q.splitFrom false s := by
      simp [splitFrom, split, hc]
    rw [h.slice?_eq, ih h.next_dot, hdot, foldr_extend_cons, List.append_nil]
    rfl
  | case9 start offset c s hc hdot ih =>
    intro front piece h
    rw [ih h.next, splitFrom, splitFrom, split]
    simp [hc, hdot]

theorem slices?_eq (name : String) :
    q.slices? name = some ((q.split name.toList).map String.ofList) := by
  have hstart : StandsAt name [] [] name.toList 0 0 := ⟨rfl, rfl, rfl⟩
  exact slicesFrom?_eq hstart

/-- **Where a name falls into segments.** Cut out by byte offsets, the segments are whole texts, at
least one, and joined with dots they are the name. Unless a quote is a dot itself, a dot divides
two segments exactly if the reader of the name comes to it outside quotes. -/
theorem slices?_aligned (q : Quoting) (name : String) :
    ∃ segments, q.slices? name = some segments ∧ segments ≠ [] ∧
      ".".intercalate segments = name ∧ q.split name.toList = segments.map String.toList ∧
      (q.opening ≠ '.' → q.closing ≠ '.' → ∀ front back, name.toList = front ++ '.' :: back →
        (IsCut front (segments.map String.toList) ↔ q.EndsOutside .outside front)) := by
  have hback : ((q.split name.toList).map String.ofList).map String.toList =
      q.split name.toList := by
    simp [Function.comp_def]
  refine ⟨_, slices?_eq name, ?_, ?_, hback.symm, ?_⟩
  · exact mt List.map_eq_nil_iff.mp (split_ne_nil name.toList)
  · rw [← String.toList_inj, String.toList_intercalate, hback]
    exact intercalate_split name.toList
  · intro ho hclosing front back hname
    have hcut := isCut_rest_iff ho hclosing front back .outside
    rw [hback, hname]
    exact hcut

/-- Characters of two and three bytes, a doubled and an escaped quote, and quotes that do not end:
of four dots one divides the name. -/
theorem slices?_aligned_of_open :
    ClickHouse.quoting.opening ≠ '.' ∧ ClickHouse.quoting.closing ≠ '.' ∧
      ∃ segments, ClickHouse.quoting.slices? "`é.``\\`.`.€`." = some segments ∧
        IsCut "`é.``\\`.`".toList (segments.map String.toList) ∧
        ¬IsCut "`é".toList (segments.map String.toList) ∧
        ¬IsCut "`é.``\\`".toList (segments.map String.toList) ∧
        ¬IsCut "`é.``\\`.`.€`".toList (segments.map String.toList) := by
  have ho : ClickHouse.quoting.opening ≠ '.' := by decide
  have hclosing : ClickHouse.quoting.closing ≠ '.' := by decide
  obtain ⟨segments, hsegments, -, -, -, hcut⟩ :=
    slices?_aligned ClickHouse.quoting "`é.``\\`.`.€`."
  refine ⟨ho, hclosing, segments, hsegments, ?_, ?_, ?_, ?_⟩
  · rw [hcut ho hclosing _ "€`.".toList (by decide)]
    decide
  · rw [hcut ho hclosing _ "``\\`.`.€`.".toList (by decide)]
    decide
  · rw [hcut ho hclosing _ "`.€`.".toList (by decide)]
    decide
  · rw [hcut ho hclosing _ [] (by decide)]
    decide

end Quoting

end SqlDialect
