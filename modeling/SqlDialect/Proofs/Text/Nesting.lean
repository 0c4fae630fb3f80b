import SqlDialect.Proofs.Text.TopLevel
/-!
# Parts of a text that end where they are to end

`cut` takes a text apart in front of the first of some characters at the top level,
for a reader that takes any steps from place to place. `scan?` carries a place
through a part in which nothing is cut, so that `cut` stops right behind a part that
is scanned from the top level to the top level (`cut_of_scan`), and nowhere else
(`cut_eq_cons_iff`).

There are two such readers. One takes the steps of `next`. The other, of
`nextInParens`, nests parentheses only: a text in which brackets do not match has an
end for it nevertheless. What is scanned from the top level is scanned within one more
parenthesis as well (`scan?_deeper`), so a part may be wrapped and still ends.

`pieces` cuts at every separator, and a part that passes contributes its own pieces
(`pieces_append_pieces`).
-/

namespace SqlDialect.Text

/-- The same place within one more bracket. -/
def Place.deeper : Place → Place
  | .outside n => .outside (n + 1)
  | .inside m n => .inside m (n + 1)
  | .escaped m n => .escaped m (n + 1)

theorem Place.deeper_ne (p : Place) : p.deeper ≠ .outside 0 := by
  cases p <;> simp [Place.deeper]

/-- The text in front of the first of these characters at the top level, and the text
from there on. -/
def cut (step : Place → Char → Place) (stops : List Char) :
    Place → List Char → List Char × List Char
  | _, [] => ([], [])
  | p, c :: s =>
    if p = .outside 0 ∧ c ∈ stops then ([], c :: s)
    else (c :: (cut step stops (step p c) s).1, (cut step stops (step p c) s).2)

variable {step : Place → Char → Place} {stops : List Char}

/-! ### Cutting -/

theorem cut_append (p : Place) (s : List Char) :
    (cut step stops p s).1 ++ (cut step stops p s).2 = s := by
  induction s generalizing p with
  | nil => rfl
  | cons c s ih =>
    rw [cut]
    split
    · rfl
    · rw [List.cons_append, ih]

theorem length_cut_le (p : Place) (s : List Char) : (cut step stops p s).2.length ≤ s.length := by
  have h : ((cut step stops p s).1 ++ (cut step stops p s).2).length = s.length := by
    rw [cut_append]
  rw [List.length_append] at h
  omega

/-- **A part ends** where it leads back to the top level and one of the characters
follows. -/
theorem cut_of_scan {p : Place} {s : List Char} (h : scan? step stops p s = some (.outside 0))
    {c : Char} (hc : c ∈ stops) (rest : List Char) :
    cut step stops p (s ++ c :: rest) = (s, c :: rest) := by
  induction s generalizing p with
  | nil =>
    cases h
    rw [List.nil_append, cut, if_pos ⟨rfl, hc⟩]
  | cons d s ih =>
    rw [scan?] at h
    split at h
    · cases h
    · rename_i hd
      rw [List.cons_append, cut, if_neg hd, ih h]

/-- **Where a part ends**: in front of the first of the characters behind which it is scanned
to the top level. -/
theorem cut_eq_cons_iff {p : Place} {t s : List Char} {c : Char} {rest : List Char} :
    cut step stops p t = (s, c :: rest) ↔
      t = s ++ c :: rest ∧ c ∈ stops ∧ scan? step stops p s = some (.outside 0) := by
  constructor
  · intro h
    induction t generalizing p s with
    | nil => cases h
    | cons d t ih =>
      rw [cut] at h
      by_cases hd : p = .outside 0 ∧ d ∈ stops
      · rw [if_pos hd] at h
        cases h
        exact ⟨rfl, hd.2, by rw [scan?, hd.1]⟩
      · rw [if_neg hd, Prod.mk.injEq] at h
        obtain ⟨rfl, hrest⟩ := h
        obtain ⟨ht, hc, hscan⟩ := ih (Prod.ext rfl hrest)
        refine ⟨congrArg (d :: ·) ht, hc, ?_⟩
        rw [scan?, if_neg hd]
        exact hscan
  · rintro ⟨rfl, hc, hscan⟩
    exact cut_of_scan hscan hc rest

namespace Quotes

variable {k : Quotes}

/-! ### Parentheses alone -/

/-- The place behind a character if parentheses nest and brackets do not. -/
def nextInParens (k : Quotes) : Place → Char → Place
  | .outside n, c => if c = '[' ∨ c = ']' then .outside n else k.next (.outside n) c
  | p, c => k.next p c

theorem next_deeper {p : Place} {c : Char} (h : ¬(p = .outside 0 ∧ (c = ')' ∨ c = ']'))) :
    k.next p.deeper c = (k.next p c).deeper := by
  cases p with
  | outside n =>
    simp only [Place.deeper, next]
    by_cases hmark : c ∈ k.marks
    · rw [if_pos hmark, if_pos hmark]
    rw [if_neg hmark, if_neg hmark]
    by_cases hopen : c = '(' ∨ c = '['
    · rw [if_pos hopen, if_pos hopen]
    rw [if_neg hopen, if_neg hopen]
    by_cases hclose : c = ')' ∨ c = ']'
    · -- something is open here, so one less than one more is what it was
      obtain ⟨m, rfl⟩ : ∃ m, n = m + 1 :=
        Nat.exists_eq_succ_of_ne_zero fun h0 => h ⟨by rw [h0], hclose⟩
      rw [if_pos hclose, if_pos hclose]
      rfl
    · rw [if_neg hclose, if_neg hclose]
  | inside m n =>
    simp only [Place.deeper, next]
    split
    · rfl
    · split <;> rfl
  | escaped m n => rfl

theorem nextInParens_deeper {p : Place} {c : Char} (h : ¬(p = .outside 0 ∧ c = ')')) :
    k.nextInParens p.deeper c = (k.nextInParens p c).deeper := by
  cases p with
  | outside n =>
    simp only [Place.deeper, nextInParens]
    by_cases hbracket : c = '[' ∨ c = ']'
    · rw [if_pos hbracket, if_pos hbracket]
    · rw [if_neg hbracket, if_neg hbracket]
      exact next_deeper (p := .outside n) fun h' =>
        h'.2.elim (fun hc => h ⟨h'.1, hc⟩) fun hc => hbracket (Or.inr hc)
  | inside m n => exact next_deeper (p := .inside m n) fun h' => nomatch h'.1
  | escaped m n => rfl

/-- **A part that is scanned may be wrapped in a parenthesis**, which it does not
close. -/
theorem scan?_deeper (hclose : ')' ∈ stops) {p q : Place} {s : List Char}
    (h : scan? k.nextInParens stops p s = some q) :
    scan? k.nextInParens stops p.deeper s = some q.deeper := by
  induction s generalizing p with
  | nil =>
    cases h
    rfl
  | cons c s ih =>
    rw [scan?] at h
    split at h
    · cases h
    · rename_i hc
      rw [scan?, if_neg fun h' => p.deeper_ne h'.1, nextInParens_deeper]
      · exact ih h
      · rintro ⟨rfl, rfl⟩
        exact hc ⟨rfl, hclose⟩

/-! ### Pieces put together again -/

variable {separator : Char}

theorem pieces_ne_nil (p : Place) (s : List Char) : k.pieces separator p s ≠ [] := by
  cases s with
  | nil => simp [pieces]
  | cons c s =>
    rw [pieces]
    split
    · simp
    · unfold Quoting.extend
      split <;> simp

theorem intercalate_extend (c : Char) {ps : List (List Char)} (h : ps ≠ []) :
    [separator].intercalate (Quoting.extend c ps) = c :: [separator].intercalate ps := by
  match ps with
  | [] => exact absurd rfl h
  | [p] => rw [Quoting.extend, List.intercalate_singleton, List.intercalate_singleton]
  | p :: q :: ps =>
    rw [Quoting.extend, List.intercalate_cons_cons, List.intercalate_cons_cons]
    simp

theorem intercalate_pieces (p : Place) (s : List Char) :
    [separator].intercalate (k.pieces separator p s) = s := by
  induction s generalizing p with
  | nil => rfl
  | cons c s ih =>
    rw [pieces]
    split
    · rename_i hc
      obtain ⟨q, qs, hq⟩ := List.exists_cons_of_ne_nil (pieces_ne_nil (k := k) p s)
      have hs := ih p
      rw [hq] at hs ⊢
      rw [List.intercalate_cons_cons, hs, hc.2]
      rfl
    · rw [intercalate_extend c (pieces_ne_nil _ _), ih]

/-- **A part that passes has its own pieces**, whatever follows the separator behind
it. -/
theorem pieces_append_pieces (hsep : k.next (.outside 0) separator = .outside 0) {p : Place}
    {s : List Char} (h : k.pass? [] p s = some (.outside 0)) (rest : List Char) :
    k.pieces separator p (s ++ separator :: rest) =
      k.pieces separator p s ++ k.pieces separator (.outside 0) rest := by
  induction s generalizing p with
  | nil =>
    cases h
    exact pieces_append (List.mem_singleton_self separator) rfl rest
  | cons c s ih =>
    obtain ⟨-, hs⟩ := pass?_cons_eq_some.mp h
    rw [List.cons_append, pieces, pieces]
    split
    · rename_i hc
      obtain ⟨rfl, rfl⟩ := hc
      rw [hsep] at hs
      rw [ih hs, List.cons_append]
    · obtain ⟨q, qs, hq⟩ := List.exists_cons_of_ne_nil (pieces_ne_nil (k := k) (k.next p c) s)
      rw [ih hs, hq]
      rfl

end Quotes

end SqlDialect.Text
