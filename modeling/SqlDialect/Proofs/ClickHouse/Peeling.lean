import SqlDialect.Proofs.ClickHouse.TypeText
/-!
# Wrappers stripped one after the other

`Strips taken` is a run of a loop that strips wrappers from a type as long as the text
they hold is `taken`. The run that takes every wrapper is the one that peeling makes
(`Strips.peelAll_eq`).

* A run ends from every text (`exists_strips`), after fewer turns than the text has
  characters (`Strips.length_le`), and in one way only (`Strips.unique`): with each turn
  the text gets shorter.
* What a turn leaves is trimmed, and so is what the run leaves (`Strips.trimmed`). No
  wrapper is left that would be taken (`Strips.not_taken`).
* A run that takes fewer wrappers is the start of one that takes more, and leaves the same
  exactly if it takes them all (`Strips.prefix_of_taken`, `Strips.of_taken`).
-/

namespace SqlDialect.ClickHouse

open Text (Trimmed trimChars)

namespace Wrapper

theorem wrap_injective {w w' : Wrapper} {inner inner' : List Char}
    (h : w.wrap inner = w'.wrap inner') : w = w' ∧ inner = inner' := by
  have hpeel := congrArg (fun type => type.takeWhile (· != '(')) h
  simp only [TypeText.takeWhile_wrap] at hpeel
  have hw : w = w' := by
    cases w <;> cases w' <;> first | rfl | exact absurd hpeel (by decide)
  subst hw
  refine ⟨rfl, ?_⟩
  rw [wrap, wrap, List.append_assoc, List.append_assoc] at h
  have hbehind := List.append_cancel_left h
  exact List.append_cancel_right (List.cons.inj hbehind).2

theorem length_wrap (w : Wrapper) (inner : List Char) :
    inner.length + 2 ≤ (w.wrap inner).length := by
  rw [wrap, List.length_append, List.length_append, List.length_cons, List.length_singleton]
  omega

end Wrapper

/-- The wrappers that are stripped from a type, each with the text it holds, and what is
left. -/
inductive Strips (taken : List Char → Prop) :
    List Char → List (Wrapper × List Char) → List Char → Prop
  | done {type : List Char} (h : ∀ (w : Wrapper) inner, type = w.wrap inner → ¬taken inner) :
      Strips taken type [] type
  | strip {inner rest : List Char} {steps : List (Wrapper × List Char)} (w : Wrapper)
      (hinner : taken inner) (h : Strips taken (trimChars inner) steps rest) :
      Strips taken (w.wrap inner) ((w, inner) :: steps) rest

namespace Strips

variable {taken : List Char → Prop} {type rest rest' : List Char}
  {steps steps' : List (Wrapper × List Char)}

/-! ### Every run ends, and in one way -/

theorem length_trimChars_lt (w : Wrapper) (inner : List Char) :
    (trimChars inner).length < (w.wrap inner).length := by
  have htrim := length_trimChars_le inner
  have hwrap := w.length_wrap inner
  omega

/-- **Every run ends**: each turn leaves a shorter text. -/
theorem exists_strips (taken : List Char → Prop) (type : List Char) :
    ∃ steps rest, Strips taken type steps rest := by
  induction hn : type.length using Nat.strongRecOn generalizing type with
  | ind n ih =>
    by_cases htype : ∃ (w : Wrapper) (inner : List Char), type = w.wrap inner ∧ taken inner
    · obtain ⟨w, inner, rfl, hinner⟩ := htype
      have hlt : (trimChars inner).length < n := hn ▸ length_trimChars_lt w inner
      obtain ⟨steps, rest, hsteps⟩ := ih _ hlt (trimChars inner) rfl
      exact ⟨(w, inner) :: steps, rest, .strip w hinner hsteps⟩
    · refine ⟨[], type, .done ?_⟩
      intro w inner hwrap htaken
      exact htype ⟨w, inner, hwrap, htaken⟩

theorem length_le (h : Strips taken type steps rest) :
    steps.length + rest.length ≤ type.length := by
  induction h with
  | done _ => simp
  | @strip inner rest steps w _ _ ih =>
    have hlt := length_trimChars_lt w inner
    rw [List.length_cons]
    omega

theorem unique (h : Strips taken type steps rest) (h' : Strips taken type steps' rest') :
    steps = steps' ∧ rest = rest' := by
  induction h generalizing steps' rest' with
  | done hdone =>
    cases h' with
    | done _ => exact ⟨rfl, rfl⟩
    | strip w hinner _ => exact absurd hinner (hdone w _ rfl)
  | @strip inner rest steps w hinner _ ih =>
    generalize htype : w.wrap inner = type' at h'
    cases h' with
    | done hdone => exact absurd hinner (hdone w inner htype.symm)
    | strip w' _ hrun =>
      obtain ⟨rfl, rfl⟩ := Wrapper.wrap_injective htype
      obtain ⟨rfl, rfl⟩ := ih hrun
      exact ⟨rfl, rfl⟩

/-! ### What a run leaves -/

theorem trimmed (h : Strips taken type steps rest) (htype : Trimmed type) : Trimmed rest := by
  induction h with
  | done _ => exact htype
  | strip w _ _ ih => exact ih (Text.trimmed_trimChars _)

theorem not_taken (h : Strips taken type steps rest) :
    ∀ (w : Wrapper) inner, rest = w.wrap inner → ¬taken inner := by
  induction h with
  | done hdone => exact hdone
  | strip w _ _ ih => exact ih

/-- **The run that takes every wrapper** is the one that peeling makes. -/
theorem peelAll_eq (h : Strips (fun _ => True) type steps rest) :
    peelAll type = (rest, decide (Wrapper.nullable ∈ steps.map Prod.fst)) := by
  induction h with
  | done hdone =>
    rw [peelAll_of_none (peel?_eq_none fun w inner hwrap => hdone w inner hwrap trivial)]
    rfl
  | @strip inner rest steps w _ _ ih =>
    rw [peelAll_of_some (peel?_wrap w inner), ih]
    cases w <;> simp

/-! ### Runs that take fewer wrappers -/

theorem of_taken {taken' : List Char → Prop} (h : Strips taken type steps rest)
    (hsteps : ∀ step ∈ steps, taken' step.2) (hsub : ∀ inner, taken' inner → taken inner) :
    Strips taken' type steps rest := by
  induction h with
  | done hdone =>
    refine .done fun w inner hwrap htaken => ?_
    exact hdone w inner hwrap (hsub inner htaken)
  | @strip inner rest steps w _ _ ih =>
    obtain ⟨hinner, hsteps⟩ := List.forall_mem_cons.mp hsteps
    exact .strip w hinner (ih hsteps)

/-- **A run that takes fewer wrappers** is the start of the other, and as long only if it takes
them all. -/
theorem prefix_of_taken {taken' : List Char → Prop} (h : Strips taken type steps rest)
    (h' : Strips taken' type steps' rest') (hsub : ∀ inner, taken' inner → taken inner) :
    steps' <+: steps ∧ (rest' = rest → ∀ step ∈ steps, taken' step.2) := by
  induction h' generalizing steps rest with
  | done hdone =>
    refine ⟨List.nil_prefix, ?_⟩
    rintro rfl
    -- a run that strips anything leaves a shorter text than it was given
    cases h with
    | done _ => exact List.forall_mem_nil _
    | @strip inner _ _ w _ hrun =>
      have hle := hrun.length_le
      have hlt := length_trimChars_lt w inner
      omega
  | @strip inner rest' steps' w htaken _ ih =>
    generalize htype : w.wrap inner = type' at h
    cases h with
    | done hdone => exact absurd (hsub inner htaken) (hdone w inner htype.symm)
    | strip w' hinner hrun =>
      obtain ⟨rfl, rfl⟩ := Wrapper.wrap_injective htype
      obtain ⟨hstart, hrest⟩ := ih hrun
      refine ⟨List.cons_prefix_cons.mpr ⟨rfl, hstart⟩, ?_⟩
      intro heq
      exact List.forall_mem_cons.mpr ⟨htaken, hrest heq⟩

end Strips

/-- **Normalizing is a run of the loop** from the trimmed text. -/
theorem normalizeType_of_strips {type : String} {steps : List (Wrapper × List Char)}
    {rest : List Char} (h : Strips (fun _ => True) (trimChars type.toList) steps rest) :
    normalizeType type =
      (String.ofList rest, decide (Wrapper.nullable ∈ steps.map Prod.fst)) := by
  rw [normalizeType, h.peelAll_eq]

end SqlDialect.ClickHouse
