import Mathlib.Data.List.DropRight
import Mathlib.Data.List.TakeWhile
import SqlDialect.Text.Blank
/-!
# Texts without blanks around them

Trimming takes the blanks from both ends of a text. Nothing is left of it exactly if
there is nothing else in it (`trimChars_eq_nil_iff`), a `Trimmed` text stays as it is, and what
is left is trimmed (`trimmed_trimChars`). How it begins is how the text begins behind its
blanks (`prefix_trimChars_iff`).
-/

namespace SqlDialect.Text

/-- A text that neither begins nor ends with a blank. -/
structure Trimmed (s : List Char) : Prop where
  head : ∀ c ∈ s.head?, isBlank c = false
  last : ∀ c ∈ s.getLast?, isBlank c = false

theorem trimmed_iff {s : List Char} : Trimmed s ↔
    s.head?.all (fun c => !isBlank c) = true ∧ s.getLast?.all (fun c => !isBlank c) = true := by
  simp only [Option.all_eq_true, Bool.not_eq_true']
  exact ⟨fun h => ⟨h.head, h.last⟩, fun h => ⟨h.1, h.2⟩⟩

instance (s : List Char) : Decidable (Trimmed s) := decidable_of_iff' _ trimmed_iff

theorem Trimmed.trimChars_eq {s : List Char} (hs : Trimmed s) : trimChars s = s := by
  have hstart : trimStart s = s := by
    cases s with
    | nil => rfl
    | cons c s =>
      refine List.dropWhile_cons_of_neg ?_
      rw [hs.head c rfl]
      exact Bool.false_ne_true
  have hend : s.rdropWhile isBlank = s := by
    rcases List.eq_nil_or_concat s with rfl | ⟨t, d, rfl⟩
    · rfl
    · rw [List.concat_eq_append] at hs ⊢
      refine List.rdropWhile_concat_neg isBlank t d ?_
      rw [hs.last d List.getLast?_concat]
      exact Bool.false_ne_true
  rw [trimChars, hstart]
  exact hend

theorem trimmed_of_forall {s : List Char} (hs : ∀ c ∈ s, isBlank c = false) : Trimmed s :=
  ⟨fun c hc => hs c (List.mem_of_mem_head? hc), fun c hc => hs c (List.mem_of_mem_getLast? hc)⟩

theorem mem_of_mem_trimChars {c : Char} {s : List Char} (h : c ∈ trimChars s) : c ∈ s := by
  have hstart : c ∈ trimStart s := (List.rdropWhile_prefix isBlank (l := trimStart s)).subset h
  exact (List.dropWhile_suffix isBlank).subset hstart

theorem trimChars_eq_nil_iff {s : List Char} :
    trimChars s = [] ↔ ∀ c ∈ s, isBlank c = true := by
  unfold trimChars trimEnd trimStart
  rw [List.reverse_eq_nil_iff, List.dropWhile_eq_nil_iff]
  simp only [List.mem_reverse]
  constructor
  · intro h c hc
    rw [← List.takeWhile_append_dropWhile (p := isBlank) (l := s)] at hc
    rcases List.mem_append.mp hc with hc | hc
    · exact List.mem_takeWhile_imp hc
    · exact h c hc
  · exact fun h c hc => h c ((List.dropWhile_suffix _).subset hc)

theorem trimChars_append_of_blank {front : List Char} (hfront : ∀ c ∈ front, isBlank c = true)
    (s : List Char) : trimChars (front ++ s) = trimChars s := by
  rw [trimChars, trimStart, List.dropWhile_append_of_pos hfront]
  rfl

theorem trimEnd_append_of_blank {back : List Char} (hback : ∀ c ∈ back, isBlank c = true)
    (s : List Char) : trimEnd (s ++ back) = trimEnd s := by
  rw [trimEnd, List.reverse_append, List.dropWhile_append_of_pos]
  · rfl
  · intro c hc
    exact hback c (List.mem_reverse.mp hc)

/-- **Trimming takes the blanks around a trimmed text**, and nothing else. -/
theorem Trimmed.trimChars_between {front s back : List Char} (hs : Trimmed s)
    (hfront : ∀ c ∈ front, isBlank c = true) (hback : ∀ c ∈ back, isBlank c = true) :
    trimChars (front ++ s ++ back) = s := by
  rw [List.append_assoc, trimChars_append_of_blank hfront]
  cases s with
  | nil => exact trimChars_eq_nil_iff.mpr hback
  | cons c s =>
    have hstart (t : List Char) : trimStart (c :: t) = c :: t := by
      refine List.dropWhile_cons_of_neg ?_
      rw [hs.head c rfl]
      exact Bool.false_ne_true
    have htrim := hs.trimChars_eq
    rw [trimChars, hstart] at htrim
    rw [trimChars, List.cons_append, hstart, ← List.cons_append, trimEnd_append_of_blank hback,
      htrim]

theorem trimChars_prefix (s : List Char) : trimChars s <+: trimStart s :=
  List.rdropWhile_prefix isBlank (trimStart s)

/-- **What is left of a text is trimmed.** -/
theorem trimmed_trimChars (s : List Char) : Trimmed (trimChars s) := by
  constructor
  · intro c hc
    -- what is left at the end begins as what is left at the start does
    obtain ⟨back, hback⟩ := trimChars_prefix s
    have hstart : (s.dropWhile isBlank).head? = some c := by
      change (trimStart s).head? = some c
      rw [← hback, List.head?_append, hc, Option.some_or]
    have hstop := List.head?_dropWhile_not isBlank s
    rw [hstart] at hstop
    exact hstop
  · intro c hc
    have hstop := List.head?_dropWhile_not isBlank (trimStart s).reverse
    rw [trimChars, trimEnd, List.getLast?_reverse] at hc
    rw [hc] at hstop
    exact hstop

/-- What trimming takes from a text are the blanks around what is left. -/
theorem exists_blanks_around (s : List Char) : ∃ front back, s = front ++ trimChars s ++ back ∧
    (∀ c ∈ front, isBlank c = true) ∧ ∀ c ∈ back, isBlank c = true := by
  refine ⟨s.takeWhile isBlank, (trimStart s).rtakeWhile isBlank, ?_,
    fun c hc => List.mem_takeWhile_imp hc, fun c hc => List.mem_rtakeWhile_imp hc⟩
  have hback : trimChars s ++ (trimStart s).rtakeWhile isBlank = trimStart s := by
    rw [trimChars, trimEnd, List.rtakeWhile, ← List.reverse_append,
      List.takeWhile_append_dropWhile, List.reverse_reverse]
  rw [List.append_assoc, hback]
  exact List.takeWhile_append_dropWhile.symm

theorem trimEnd_append_of_last {opening : List Char}
    (hopening : ∀ c ∈ opening.getLast?, isBlank c = false) (rest : List Char) :
    trimEnd (opening ++ rest) = opening ++ trimEnd rest := by
  have hkeep : opening.reverse.dropWhile isBlank = opening.reverse := by
    cases hrev : opening.reverse with
    | nil => rfl
    | cons c s =>
      have hc : opening.getLast? = some c := by
        rw [← List.head?_reverse, hrev, List.head?_cons]
      rw [List.dropWhile_cons_of_neg]
      rw [hopening c hc]
      exact Bool.false_ne_true
  rw [trimEnd, List.reverse_append, List.dropWhile_append]
  by_cases hrest : (rest.reverse.dropWhile isBlank).isEmpty = true
  · rw [if_pos hrest, hkeep, trimEnd, List.isEmpty_iff.mp hrest]
    simp
  · rw [if_neg hrest, trimEnd]
    simp

/-- **How a trimmed text begins** is how the text begins behind its blanks. -/
theorem prefix_trimChars_iff {opening s : List Char} (hne : opening ≠ [])
    (hopening : Trimmed opening) : opening <+: trimChars s ↔
      ∃ blanks rest, (∀ c ∈ blanks, isBlank c = true) ∧ s = blanks ++ opening ++ rest := by
  constructor
  · rintro ⟨rest, hrest⟩
    obtain ⟨back, hback⟩ := trimChars_prefix s
    have hstart : trimStart s = opening ++ (rest ++ back) := by
      rw [← List.append_assoc, hrest, hback]
    refine ⟨s.takeWhile isBlank, rest ++ back, fun c hc => List.mem_takeWhile_imp hc, ?_⟩
    rw [List.append_assoc, ← hstart]
    exact List.takeWhile_append_dropWhile.symm
  · rintro ⟨blanks, rest, hblanks, rfl⟩
    obtain ⟨c, tail, rfl⟩ := List.exists_cons_of_ne_nil hne
    have hstart : trimStart (c :: tail ++ rest) = c :: tail ++ rest := by
      refine List.dropWhile_cons_of_neg ?_
      rw [hopening.head c rfl]
      exact Bool.false_ne_true
    rw [List.append_assoc, trimChars_append_of_blank hblanks, trimChars, hstart,
      trimEnd_append_of_last hopening.last]
    exact List.prefix_append _ _

end SqlDialect.Text
