import SqlDialect.Text.Blank
/-!
# Lines

The pieces of a text between the occurrences of a character are put together again with that
character (`flatMap_splitOn`), and cutting goes piece by piece (`splitOn_append_cons`).

A line ends in a line feed, with or without a carriage return before it (`LineEnd`). The lines of
a text are what was written before these ends, and what follows the last one, if anything does
(`lines_append`).
-/

namespace SqlDialect.Text

/-! ### Cutting a text at a character -/

variable {d : Char}

theorem splitOn_cons_self (s : List Char) : splitOn d (d :: s) = [] :: splitOn d s := by
  rw [splitOn, if_pos rfl]

theorem splitOn_cons_of_ne {c : Char} (hc : c ≠ d) {s piece : List Char}
    {pieces : List (List Char)} (hs : splitOn d s = piece :: pieces) :
    splitOn d (c :: s) = (c :: piece) :: pieces := by
  rw [splitOn, if_neg hc, hs]

theorem splitOn_append_of_not_mem {p : List Char} (hp : d ∉ p) {s piece : List Char}
    {pieces : List (List Char)} (hs : splitOn d s = piece :: pieces) :
    splitOn d (p ++ s) = (p ++ piece) :: pieces := by
  induction p with
  | nil => exact hs
  | cons c p ih =>
    rw [List.mem_cons, not_or] at hp
    exact splitOn_cons_of_ne (Ne.symm hp.1) (ih hp.2)

theorem splitOn_of_not_mem {p : List Char} (hp : d ∉ p) : splitOn d p = [p] := by
  have hall := splitOn_append_of_not_mem hp (s := []) rfl
  rwa [List.append_nil] at hall

theorem splitOn_append_cons (s t : List Char) :
    splitOn d (s ++ d :: t) = splitOn d s ++ splitOn d t := by
  induction s with
  | nil => exact splitOn_cons_self t
  | cons c s ih =>
    by_cases hc : c = d
    · subst hc
      rw [List.cons_append, splitOn_cons_self, splitOn_cons_self, ih, List.cons_append]
    · obtain ⟨piece, pieces, hs⟩ := List.exists_cons_of_ne_nil (splitOn_ne_nil d s)
      rw [hs, List.cons_append] at ih
      rw [List.cons_append, splitOn_cons_of_ne hc ih, splitOn_cons_of_ne hc hs, List.cons_append]

theorem not_mem_of_mem_splitOn {s piece : List Char} (hpiece : piece ∈ splitOn d s) :
    d ∉ piece := by
  induction s generalizing piece with
  | nil =>
    rw [List.mem_singleton.mp hpiece]
    exact List.not_mem_nil
  | cons c s ih =>
    by_cases hc : c = d
    · subst hc
      rw [splitOn_cons_self, List.mem_cons] at hpiece
      rcases hpiece with rfl | hpiece
      · exact List.not_mem_nil
      · exact ih hpiece
    · obtain ⟨first, rest, hs⟩ := List.exists_cons_of_ne_nil (splitOn_ne_nil d s)
      rw [splitOn_cons_of_ne hc hs, List.mem_cons] at hpiece
      rw [hs] at ih
      rcases hpiece with rfl | hpiece
      · rw [List.mem_cons, not_or]
        exact ⟨Ne.symm hc, ih (List.mem_cons_self ..)⟩
      · exact ih (List.mem_cons_of_mem _ hpiece)

theorem flatMap_splitOn (s : List Char) : (splitOn d s).flatMap (· ++ [d]) = s ++ [d] := by
  induction s with
  | nil => rfl
  | cons c s ih =>
    by_cases hc : c = d
    · subst hc
      rw [splitOn_cons_self, List.flatMap_cons, ih]
      rfl
    · obtain ⟨first, rest, hs⟩ := List.exists_cons_of_ne_nil (splitOn_ne_nil d s)
      rw [hs, List.flatMap_cons] at ih
      rw [splitOn_cons_of_ne hc hs, List.flatMap_cons, List.cons_append, List.cons_append, ih,
        List.cons_append]

/-! ### Lines with their ends -/

inductive LineEnd
  | lf
  | crlf

def LineEnd.chars : LineEnd → List Char
  | lf => ['\n']
  | crlf => ['\r', '\n']

/-- What ends in a line feed holds none, and no carriage return that belonged to the end. -/
def EndsIn (s : List Char) (e : LineEnd) : Prop :=
  '\n' ∉ s ∧ (e = .lf → s.getLast? ≠ some '\r')

theorem dropLast?_append (c : Char) (s : List Char) : dropLast? c (s ++ [c]) = s := by
  rw [dropLast?, if_pos List.getLast?_concat, List.dropLast_concat]

theorem splitOn_line {s : List Char} {e : LineEnd} (hs : EndsIn s e) (t : List Char) :
    ∃ piece, splitOn '\n' (s ++ e.chars ++ t) = piece :: splitOn '\n' t ∧
      dropLast? '\r' piece = s := by
  cases e with
  | lf =>
    refine ⟨s, ?_, if_neg (hs.2 rfl)⟩
    rw [List.append_assoc]
    show splitOn '\n' (s ++ '\n' :: t) = _
    rw [splitOn_append_cons, splitOn_of_not_mem hs.1]
    rfl
  | crlf =>
    have hreturn : '\n' ∉ s ++ ['\r'] := by simpa using hs.1
    refine ⟨s ++ ['\r'], ?_, dropLast?_append '\r' s⟩
    have hassoc : s ++ LineEnd.crlf.chars ++ t = (s ++ ['\r']) ++ '\n' :: t := by
      simp [LineEnd.chars]
    rw [hassoc, splitOn_append_cons, splitOn_of_not_mem hreturn]
    rfl

theorem lines_line {s : List Char} {e : LineEnd} (hs : EndsIn s e) (t : List Char) :
    lines (s ++ e.chars ++ t) = s :: lines t := by
  obtain ⟨piece, hsplit, hpiece⟩ := splitOn_line hs t
  obtain ⟨first, rest, hrest⟩ := List.exists_cons_of_ne_nil (splitOn_ne_nil '\n' t)
  unfold lines
  rw [hsplit, hrest]
  simp only [List.dropLast_cons_cons, List.getLast?_cons_cons, List.map_cons, hpiece]
  split <;> rfl

theorem lines_of_not_mem {s : List Char} (hs : '\n' ∉ s) :
    lines s = if s = [] then [] else [s] := by
  unfold lines
  rw [splitOn_of_not_mem hs]
  cases s with
  | nil => rfl
  | cons c s => rfl

theorem lines_append {ls : List (List Char × LineEnd)} (hls : ∀ l ∈ ls, EndsIn l.1 l.2)
    {last : List Char} (hlast : '\n' ∉ last) :
    lines (ls.flatMap (fun l => l.1 ++ l.2.chars) ++ last) =
      ls.map (·.1) ++ if last = [] then [] else [last] := by
  induction ls with
  | nil => exact lines_of_not_mem hlast
  | cons l ls ih =>
    rw [List.flatMap_cons, List.append_assoc, lines_line (hls l (List.mem_cons_self ..)),
      ih fun l' hl' => hls l' (List.mem_cons_of_mem _ hl')]
    rfl

end SqlDialect.Text
