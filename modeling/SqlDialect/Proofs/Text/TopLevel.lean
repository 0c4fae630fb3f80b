import SqlDialect.Proofs.Text.Quoted
/-!
# Reading a statement from the outside

A reader that knows nothing of a statement but its quotes and brackets. It goes
through a text character by character and keeps its `Place`: outside quotes within
so many brackets, or inside quotes. `upTo?` and `pieces` cut a text at characters
that stand outside quotes and brackets.

`pass?` carries a place through a part of a text in which nothing is cut, and `scan?`
does so for a reader that takes other steps from place to place. What passes from the
top level to the top level is a part that the reader leaves alone (`upTo?_of_pass`,
`pieces_intercalate`). Quoted texts pass (`pass?_quoted`, and for any reader that knows
the quotes `KnownBy.scan?_quoted`), and so does what is put together from parts that pass
(`pass?_append`, `pass?_intercalate`).
-/

namespace SqlDialect.Text

/-- The characters that stand around quoted texts, and whether a backslash escapes
inside them. -/
structure Quotes where
  marks : List Char
  backslash : Bool

/-- Where a reader stands, and within how many brackets. -/
inductive Place
  | outside (depth : Nat)
  | inside (mark : Char) (depth : Nat)
  /-- Behind a backslash that escapes. -/
  | escaped (mark : Char) (depth : Nat)
  deriving DecidableEq

/-- The place behind a text that is read with these steps, if none of these characters
stands at its top level. -/
def scan? (step : Place → Char → Place) (stops : List Char) : Place → List Char → Option Place
  | p, [] => some p
  | p, c :: s => if p = .outside 0 ∧ c ∈ stops then none else scan? step stops (step p c) s

theorem scan?_append {step : Place → Char → Place} {stops : List Char} (p : Place)
    (s t : List Char) :
    scan? step stops p (s ++ t) = (scan? step stops p s).bind fun q => scan? step stops q t := by
  induction s generalizing p with
  | nil => rfl
  | cons c s ih =>
    rw [List.cons_append, scan?, scan?]
    split
    · rfl
    · exact ih _

theorem scan?_append_of {step : Place → Char → Place} {stops : List Char} {p q r : Place}
    {s t : List Char} (hs : scan? step stops p s = some q) (ht : scan? step stops q t = some r) :
    scan? step stops p (s ++ t) = some r := by
  rw [scan?_append, hs, Option.bind_some, ht]

/-- Characters that leave a reader where it is. -/
theorem scan?_of_forall {step : Place → Char → Place} {stops : List Char} {p : Place}
    {s : List Char} (hs : ∀ c ∈ s, step p c = p ∧ c ∉ stops) : scan? step stops p s = some p := by
  induction s with
  | nil => rfl
  | cons c s ih =>
    obtain ⟨⟨hc, hstop⟩, hs⟩ := List.forall_mem_cons.mp hs
    rw [scan?, if_neg fun h => hstop h.2, hc]
    exact ih hs

theorem scan?_intercalate {step : Place → Char → Place} {stops : List Char} {p : Place}
    {separator : List Char} (hsep : scan? step stops p separator = some p)
    {ps : List (List Char)} (hps : ∀ s ∈ ps, scan? step stops p s = some p) :
    scan? step stops p (separator.intercalate ps) = some p := by
  induction ps with
  | nil => rfl
  | cons s ps ih =>
    obtain ⟨hs, hps⟩ := List.forall_mem_cons.mp hps
    cases ps with
    | nil =>
      rw [List.intercalate_singleton]
      exact hs
    | cons t ps =>
      rw [List.intercalate_cons_cons, List.append_assoc]
      exact scan?_append_of hs (scan?_append_of hsep (ih hps))

namespace Quotes

/-- The place behind a character. A mark written twice ends a quoted text and goes
on with it at once. -/
def next (k : Quotes) : Place → Char → Place
  | .outside n, c =>
    if c ∈ k.marks then .inside c n
    else if c = '(' ∨ c = '[' then .outside (n + 1)
    else if c = ')' ∨ c = ']' then .outside (n - 1)
    else .outside n
  | .inside m n, c =>
    if c = '\\' ∧ k.backslash then .escaped m n
    else if c = m then .outside n
    else .inside m n
  | .escaped m n, _ => .inside m n

/-- The text in front of the first `stop` at the top level, and the text behind it. -/
def upTo? (k : Quotes) (stop : Char) : Place → List Char → Option (List Char × List Char)
  | _, [] => none
  | p, c :: s =>
    if p = .outside 0 ∧ c = stop then some ([], s)
    else (upTo? k stop (k.next p c) s).map fun q => (c :: q.1, q.2)

/-- The pieces between the `separator`s at the top level. -/
def pieces (k : Quotes) (separator : Char) : Place → List Char → List (List Char)
  | _, [] => [[]]
  | p, c :: s =>
    if p = .outside 0 ∧ c = separator then [] :: pieces k separator p s
    else Quoting.extend c (pieces k separator (k.next p c) s)

/-- Without one blank in front. -/
def dropBlank : List Char → List Char
  | ' ' :: s => s
  | s => s

/-- The items of a list with commas and, behind each comma, perhaps a blank. -/
def items (k : Quotes) (s : List Char) : List (List Char) :=
  match k.pieces ',' (.outside 0) s with
  | [] => []
  | piece :: rest => piece :: rest.map dropBlank

/-- The place behind a text, if none of these characters stands at its top level. -/
def pass? (k : Quotes) (stops : List Char) : Place → List Char → Option Place
  | p, [] => some p
  | p, c :: s =>
    if p = .outside 0 ∧ c ∈ stops then none else pass? k stops (k.next p c) s

variable {k : Quotes} {stops : List Char}

/-! ### What passes -/

theorem pass?_cons_eq_some {p q : Place} {c : Char} {s : List Char} :
    k.pass? stops p (c :: s) = some q ↔
      ¬(p = .outside 0 ∧ c ∈ stops) ∧ k.pass? stops (k.next p c) s = some q := by
  rw [pass?]
  by_cases hc : p = .outside 0 ∧ c ∈ stops
  · rw [if_pos hc]
    exact iff_of_false (by simp) fun h => h.1 hc
  · rw [if_neg hc, and_iff_right hc]

theorem pass?_eq_scan? (p : Place) (s : List Char) :
    k.pass? stops p s = scan? k.next stops p s := by
  induction s generalizing p with
  | nil => rfl
  | cons c s ih =>
    rw [pass?, scan?]
    split
    · rfl
    · exact ih _

theorem pass?_append (p : Place) (s t : List Char) :
    k.pass? stops p (s ++ t) = (k.pass? stops p s).bind fun q => k.pass? stops q t := by
  simp only [pass?_eq_scan?, scan?_append]

theorem pass?_append_of {p q r : Place} {s t : List Char} (hs : k.pass? stops p s = some q)
    (ht : k.pass? stops q t = some r) : k.pass? stops p (s ++ t) = some r := by
  rw [pass?_append, hs, Option.bind_some, ht]

theorem pass?_mono {stops' : List Char} (hsub : stops' ⊆ stops) {p q : Place} {s : List Char}
    (h : k.pass? stops p s = some q) : k.pass? stops' p s = some q := by
  induction s generalizing p with
  | nil => exact h
  | cons c s ih =>
    obtain ⟨hc, hs⟩ := pass?_cons_eq_some.mp h
    exact pass?_cons_eq_some.mpr ⟨fun h' => hc ⟨h'.1, hsub h'.2⟩, ih hs⟩

/-- A character that is neither a quote, a bracket nor a stop. -/
def Plain (k : Quotes) (stops : List Char) (c : Char) : Prop :=
  c ∉ k.marks ∧ c ∉ ['(', '[', ')', ']'] ∧ c ∉ stops

instance (k : Quotes) (stops : List Char) (c : Char) : Decidable (k.Plain stops c) :=
  inferInstanceAs (Decidable (_ ∧ _))

theorem pass?_plain {s : List Char} (hs : ∀ c ∈ s, k.Plain stops c) (n : Nat) :
    k.pass? stops (.outside n) s = some (.outside n) := by
  rw [pass?_eq_scan?]
  refine scan?_of_forall fun c hc => ?_
  obtain ⟨hmark, hbracket, hstop⟩ := hs c hc
  have hopen : ¬(c = '(' ∨ c = '[') := fun h => hbracket (by rcases h with rfl | rfl <;> decide)
  have hclose : ¬(c = ')' ∨ c = ']') := fun h => hbracket (by rcases h with rfl | rfl <;> decide)
  rw [next, if_neg hmark, if_neg hopen, if_neg hclose]
  exact ⟨rfl, hstop⟩

theorem next_closing {m : Char} (hm : m ≠ '\\') (n : Nat) :
    k.next (.inside m n) m = .outside n := by
  rw [next, if_neg fun h => hm h.1, if_pos rfl]

/-- Steps that enter a quoted text at a mark and go through it as `next` does. -/
structure KnownBy (k : Quotes) (step : Place → Char → Place) : Prop where
  mark : ∀ n c, c ∈ k.marks → step (.outside n) c = .inside c n
  inside : ∀ m n c, step (.inside m n) c = k.next (.inside m n) c
  escaped : ∀ m n c, step (.escaped m n) c = .inside m n

theorem knownBy_next (k : Quotes) : k.KnownBy k.next :=
  ⟨fun _ _ hc => if_pos hc, fun _ _ _ => rfl, fun _ _ _ => rfl⟩

section Quoted

variable {step : Place → Char → Place} (hstep : k.KnownBy step)

include hstep

theorem KnownBy.scan?_inside (m : Char) (n : Nat) (c : Char) (s : List Char) :
    scan? step stops (.inside m n) (c :: s) = scan? step stops (k.next (.inside m n) c) s := by
  rw [scan?, if_neg (fun h => nomatch h.1), hstep.inside]

theorem KnownBy.scan?_escaped (m : Char) (n : Nat) (c : Char) (s : List Char) :
    scan? step stops (.escaped m n) (c :: s) = scan? step stops (.inside m n) s := by
  rw [scan?, if_neg (fun h => nomatch h.1), hstep.escaped]

theorem KnownBy.scan?_mark {c : Char} (hc : c ∈ k.marks) (hstop : c ∉ stops) (n : Nat)
    (s : List Char) :
    scan? step stops (.outside n) (c :: s) = scan? step stops (.inside c n) s := by
  rw [scan?, if_neg fun h => hstop h.2, hstep.mark n c hc]

/-- **A quoted text is gone through** from its inside to its end. -/
theorem KnownBy.scan?_quoted {r : QuoteRule} (hb : r.backslash = k.backslash)
    (hm : r.closing ∈ k.marks) (hr : r.closing ≠ '\\') (hstop : r.closing ∉ stops) (n : Nat)
    {body content : List Char} (h : r.read? body = some (content, [])) :
    scan? step stops (.inside r.closing n) body = some (.outside n) := by
  induction body using QuoteRule.read?.induct r generalizing content with
  | case1 => simp [QuoteRule.read?] at h
  | case2 c hc => rw [QuoteRule.read?, if_pos hc] at h; cases h
  | case3 hc =>
    rw [hstep.scan?_inside, next_closing hr]
    rfl
  | case4 c hc hne => rw [QuoteRule.read?, if_neg hc, if_neg hne] at h; cases h
  | case5 c d s hc ih =>
    obtain ⟨rfl, hbr⟩ := hc
    rw [QuoteRule.read?_backslash hbr] at h
    obtain ⟨inner, -, h⟩ := QuoteRule.map_cons_eq_some.mp h
    rw [hstep.scan?_inside, next, if_pos ⟨rfl, hb ▸ hbr⟩, hstep.scan?_escaped]
    exact ih h
  | case6 s hc ih =>
    rw [QuoteRule.read?_doubled hr] at h
    obtain ⟨inner, -, h⟩ := QuoteRule.map_cons_eq_some.mp h
    rw [hstep.scan?_inside, next_closing hr, hstep.scan?_mark hm hstop]
    exact ih h
  | case7 d s hd hc =>
    rw [QuoteRule.read?_closing hr (by simpa using hd)] at h
    cases h
  | case8 c d s hc hne ih =>
    rw [QuoteRule.read?_plain hne hc] at h
    obtain ⟨inner, -, h⟩ := QuoteRule.map_cons_eq_some.mp h
    rw [hstep.scan?_inside, next, if_neg fun h' => hc ⟨h'.1, hb ▸ h'.2⟩, if_neg hne]
    exact ih h

end Quoted

/-- **A quoted text passes** from its inside to its end. -/
theorem pass?_quoted {r : QuoteRule} (hb : r.backslash = k.backslash) (hm : r.closing ∈ k.marks)
    (hr : r.closing ≠ '\\') (hstop : r.closing ∉ stops) (n : Nat) {body content : List Char}
    (h : r.read? body = some (content, [])) :
    k.pass? stops (.inside r.closing n) body = some (.outside n) := by
  rw [pass?_eq_scan?]
  exact k.knownBy_next.scan?_quoted hb hm hr hstop n h

theorem pass?_intercalate {separator : List Char} {n : Nat}
    (hsep : k.pass? stops (.outside n) separator = some (.outside n)) {ps : List (List Char)}
    (hps : ∀ p ∈ ps, k.pass? stops (.outside n) p = some (.outside n)) :
    k.pass? stops (.outside n) (separator.intercalate ps) = some (.outside n) := by
  simp only [pass?_eq_scan?] at hsep hps ⊢
  exact scan?_intercalate hsep hps

/-! ### What the reader finds -/

theorem upTo?_of_pass {stop : Char} (hstop : stop ∈ stops) {p : Place} {s : List Char}
    (h : k.pass? stops p s = some (.outside 0)) (rest : List Char) :
    k.upTo? stop p (s ++ stop :: rest) = some (s, rest) := by
  induction s generalizing p with
  | nil =>
    cases h
    rw [List.nil_append, upTo?, if_pos ⟨rfl, rfl⟩]
  | cons c s ih =>
    obtain ⟨hc, hs⟩ := pass?_cons_eq_some.mp h
    rw [List.cons_append, upTo?, if_neg, ih hs, Option.map_some]
    rintro ⟨hp, rfl⟩
    exact hc ⟨hp, hstop⟩

theorem pieces_of_pass {separator : Char} (hsep : separator ∈ stops) {p q : Place} {s : List Char}
    (h : k.pass? stops p s = some q) : k.pieces separator p s = [s] := by
  induction s generalizing p with
  | nil => rfl
  | cons c s ih =>
    obtain ⟨hc, hs⟩ := pass?_cons_eq_some.mp h
    rw [pieces, if_neg, ih hs, Quoting.extend]
    rintro ⟨hp, rfl⟩
    exact hc ⟨hp, hsep⟩

theorem pieces_append {separator : Char} (hsep : separator ∈ stops) {p : Place} {s : List Char}
    (h : k.pass? stops p s = some (.outside 0)) (rest : List Char) :
    k.pieces separator p (s ++ separator :: rest) =
      s :: k.pieces separator (.outside 0) rest := by
  induction s generalizing p with
  | nil =>
    cases h
    rw [List.nil_append, pieces, if_pos ⟨rfl, rfl⟩]
  | cons c s ih =>
    obtain ⟨hc, hs⟩ := pass?_cons_eq_some.mp h
    rw [List.cons_append, pieces, if_neg, ih hs, Quoting.extend]
    rintro ⟨hp, rfl⟩
    exact hc ⟨hp, hsep⟩

/-- The pieces between commas begin with the blanks behind the commas. -/
theorem pieces_intercalate (hblank : ' ' ∉ k.marks) {p : List Char} {ps : List (List Char)}
    (hps : ∀ q ∈ p :: ps, k.pass? [','] (.outside 0) q = some (.outside 0)) :
    k.pieces ',' (.outside 0) ([',', ' '].intercalate (p :: ps)) = p :: ps.map (' ' :: ·) := by
  induction ps generalizing p with
  | nil =>
    rw [List.intercalate_singleton]
    exact pieces_of_pass (List.mem_cons_self ..) (hps p (List.mem_cons_self ..))
  | cons q ps ih =>
    have hp := hps p (List.mem_cons_self ..)
    have hq := hps q (by simp)
    have hbq : k.pass? [','] (.outside 0) (' ' :: q) = some (.outside 0) := by
      refine pass?_append_of (s := [' ']) (pass?_plain ?_ 0) hq
      simp [Plain, hblank]
    have hrest : ∀ t ∈ (' ' :: q) :: ps, k.pass? [','] (.outside 0) t = some (.outside 0) := by
      intro t ht
      rcases List.mem_cons.mp ht with rfl | ht
      · exact hbq
      · exact hps t (by simp [ht])
    rw [List.intercalate_cons_cons, List.append_assoc, List.cons_append, List.cons_append,
      List.nil_append, pieces_append (List.mem_cons_self ..) hp, ← List.intercalate_cons_cons_left,
      ih hrest, List.map_cons]

/-- **A list is read back item by item.** -/
theorem items_intercalate (hblank : ' ' ∉ k.marks) {ps : List (List Char)} (hne : ps ≠ [])
    (hps : ∀ p ∈ ps, k.pass? [','] (.outside 0) p = some (.outside 0)) :
    k.items ([',', ' '].intercalate ps) = ps := by
  cases ps with
  | nil => exact absurd rfl hne
  | cons p ps =>
    rw [items, pieces_intercalate hblank hps]
    simp [Function.comp_def, dropBlank]

end Quotes

end SqlDialect.Text
