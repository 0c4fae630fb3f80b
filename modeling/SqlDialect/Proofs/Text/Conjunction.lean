import SqlDialect.Proofs.Text.TopLevel
/-!
# Conditions taken apart

`conjuncts` cuts a condition at the words `AND` between blanks, where these stand outside
quotes, and minds nothing else. `conjuncts_intercalate`: parts that were joined by such words
are found again.

A part may hold any text between its quotes. Outside of them one thing is asked of it, that
it has no letter `D` (`Uncut`). The word needs one, so nothing is cut within a part, and the
blank behind a part is too early for the word to begin in it (`not_word`).
-/

namespace SqlDialect.Text

namespace Quotes

/-- The place behind a character if nothing nests. -/
def nextFlat (k : Quotes) : Place → Char → Place
  | .outside n, c => if c ∈ k.marks then .inside c n else .outside n
  | p, c => k.next p c

/-- The parts between the words `AND` outside quotes with a blank on both sides. -/
def conjuncts (k : Quotes) : Place → List Char → List (List Char)
  | _, [] => [[]]
  | .outside 0, ' ' :: 'A' :: 'N' :: 'D' :: ' ' :: s => [] :: conjuncts k (.outside 0) s
  | p, c :: s => Quoting.extend c (conjuncts k (k.nextFlat p c) s)

/-- The text begins and ends outside quotes and has no `D` there. -/
def Uncut (k : Quotes) (s : List Char) : Prop :=
  scan? k.nextFlat ['D'] (.outside 0) s = some (.outside 0)

instance (k : Quotes) (s : List Char) : Decidable (k.Uncut s) :=
  inferInstanceAs (Decidable (_ = _))

variable {k : Quotes}

/-! ### Texts in which nothing is cut -/

theorem knownBy_nextFlat (k : Quotes) : k.KnownBy k.nextFlat :=
  ⟨fun _ _ hc => if_pos hc, fun _ _ _ => rfl, fun _ _ _ => rfl⟩

theorem Uncut.append {s t : List Char} (hs : k.Uncut s) (ht : k.Uncut t) : k.Uncut (s ++ t) :=
  scan?_append_of hs ht

theorem uncut_of_forall {s : List Char} (hs : ∀ c ∈ s, c ∉ 'D' :: k.marks) : k.Uncut s := by
  refine scan?_of_forall ?_
  intro c hc
  obtain ⟨hD, hmark⟩ := not_or.mp (mt List.mem_cons.mpr (hs c hc))
  exact ⟨if_neg hmark, mt List.mem_singleton.mp hD⟩

/-- What stands between quotes is not looked at. -/
theorem uncut_quoted {r : QuoteRule} (hb : r.backslash = k.backslash) (hm : r.closing ∈ k.marks)
    (hr : r.closing ∉ ['\\', 'D']) {body content : List Char}
    (h : r.read? body = some (content, [])) : k.Uncut (r.closing :: body) := by
  simp only [List.mem_cons, List.not_mem_nil, or_false, not_or] at hr
  have hstop : r.closing ∉ ['D'] := mt List.mem_singleton.mp hr.2
  rw [Uncut, k.knownBy_nextFlat.scan?_mark hm hstop]
  exact k.knownBy_nextFlat.scan?_quoted hb hm hr.1 hstop 0 h

/-! ### Cutting -/

section Cutting

variable (hk : ∀ c ∈ [' ', 'A', 'N'], c ∉ k.marks)

include hk

/-- The word does not begin in a text without a `D` outside quotes, if a blank follows. -/
theorem not_word {p : Place} {s rest t : List Char} (hs : s ≠ [])
    (h : scan? k.nextFlat ['D'] (.outside 0) s = some p)
    (hrest : ∀ c, rest.head? = some c → c = ' ') : s ++ rest ≠ ' ' :: 'A' :: 'N' :: 'D' :: t := by
  intro he
  have hnot {c : Char} (hc : c ≠ ' ') (u : List Char) : rest ≠ c :: u := by
    rintro rfl
    exact hc (hrest c rfl)
  have hstay {c : Char} (hc : c ∈ [' ', 'A', 'N']) : k.nextFlat (.outside 0) c = .outside 0 :=
    if_neg (hk c hc)
  -- by how much of the word the text has
  match s with
  | [] => exact hs rfl
  | [_] => exact hnot (by decide) _ (List.cons_eq_cons.mp he).2
  | [_, _] => exact hnot (by decide) _ (List.cons_eq_cons.mp (List.cons_eq_cons.mp he).2).2
  | [_, _, _] =>
    simp only [List.cons_append, List.nil_append, List.cons.injEq] at he
    exact hnot (by decide) _ he.2.2.2
  | a :: b :: c :: d :: u =>
    simp only [List.cons_append, List.cons.injEq] at he
    obtain ⟨rfl, rfl, rfl, rfl, -⟩ := he
    rw [scan?, if_neg (by decide), hstay (by decide), scan?, if_neg (by decide),
      hstay (by decide), scan?, if_neg (by decide), hstay (by decide), scan?,
      if_pos ⟨rfl, List.mem_singleton_self _⟩] at h
    cases h

/-- A text in which nothing is cut comes in front of the first part of what follows. -/
theorem conjuncts_append {p : Place} {s rest : List Char}
    (h : scan? k.nextFlat ['D'] p s = some (.outside 0))
    (hrest : ∀ c, rest.head? = some c → c = ' ') :
    k.conjuncts p (s ++ rest) = s.foldr Quoting.extend (k.conjuncts (.outside 0) rest) := by
  induction s generalizing p with
  | nil =>
    cases h
    rfl
  | cons c s ih =>
    have hword (t : List Char) :
        p = .outside 0 → c = ' ' → s ++ rest = 'A' :: 'N' :: 'D' :: ' ' :: t → False := by
      rintro rfl rfl he
      exact not_word hk (List.cons_ne_nil _ _) h hrest (congrArg (' ' :: ·) he)
    rw [scan?] at h
    split at h
    · cases h
    · rw [List.cons_append, conjuncts, ih h, List.foldr_cons]
      exact hword

omit hk in
theorem foldr_extend (s piece : List Char) (pieces : List (List Char)) :
    s.foldr Quoting.extend (piece :: pieces) = (s ++ piece) :: pieces := by
  induction s with
  | nil => rfl
  | cons c s ih => rw [List.foldr_cons, ih, Quoting.extend, List.cons_append]

theorem conjuncts_of_uncut {s : List Char} (hs : k.Uncut s) :
    k.conjuncts (.outside 0) s = [s] := by
  have h : k.conjuncts (.outside 0) (s ++ []) =
      s.foldr Quoting.extend (k.conjuncts (.outside 0) []) := conjuncts_append hk hs (by simp)
  rwa [List.append_nil, conjuncts, foldr_extend, List.append_nil] at h

theorem conjuncts_and {s : List Char} (hs : k.Uncut s) (rest : List Char) :
    k.conjuncts (.outside 0) (s ++ (" AND ".toList ++ rest)) =
      s :: k.conjuncts (.outside 0) rest := by
  have hblank (c : Char) (hc : (" AND ".toList ++ rest).head? = some c) : c = ' ' :=
    (Option.some.inj hc).symm
  have hcut : k.conjuncts (.outside 0) (" AND ".toList ++ rest) =
      [] :: k.conjuncts (.outside 0) rest := rfl
  rw [conjuncts_append hk hs hblank, hcut, foldr_extend, List.append_nil]

/-- **A condition is taken apart** into what it was put together from. -/
theorem conjuncts_intercalate {ps : List (List Char)} (hne : ps ≠ [])
    (hps : ∀ p ∈ ps, k.Uncut p) :
    k.conjuncts (.outside 0) (" AND ".toList.intercalate ps) = ps := by
  induction ps with
  | nil => exact absurd rfl hne
  | cons p ps ih =>
    obtain ⟨hp, hps⟩ := List.forall_mem_cons.mp hps
    cases ps with
    | nil =>
      rw [List.intercalate_singleton]
      exact conjuncts_of_uncut hk hp
    | cons q ps =>
      rw [List.intercalate_cons_cons, List.append_assoc, conjuncts_and hk hp,
        ih (List.cons_ne_nil _ _) hps]

end Cutting

end Quotes

end SqlDialect.Text
