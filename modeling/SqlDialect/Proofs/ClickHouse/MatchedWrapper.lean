import SqlDialect.Proofs.ClickHouse.Peeling
import SqlDialect.Proofs.Text.Nesting
/-!
# Wrappers and the parentheses that close them

A wrapper is stripped if the text begins with its name and a parenthesis and ends with a
parenthesis. Nothing is asked of what stands between these two, so the one at the end need
not be the one that closes the other.

It is exactly if the text between them is `Balanced` (`closed_iff_balanced`), and whoever
strips only wrappers that are closed at the end stops at the first one that is not. So
`normalizeType_matched_iff`: both have the same result exactly if the text in every wrapper
that was stripped is balanced. A text that only begins like a wrapper keeps its beginning
exactly if it does not end with a parenthesis (`normalizeType_eq_trimmed_iff`). What is quoted
in a type does not count as a parenthesis; the quotes that a reader knows are left open here.
-/

namespace SqlDialect.ClickHouse

open Text (Quotes scan? cut trimChars)

/-- What stands behind a parenthesis, from the parenthesis on that closes it. Nothing does, if
it is never closed. -/
def fromClosing (k : Quotes) (s : List Char) : List Char :=
  (cut k.nextInParens [')'] (.outside 0) s).2

/-- A parenthesis behind this text closes the one in front of it. -/
def Closed (k : Quotes) (inner : List Char) : Prop := fromClosing k (inner ++ [')']) = [')']

/-- Every parenthesis that is opened in a text is closed there, and no other is. -/
def Balanced (k : Quotes) (inner : List Char) : Prop :=
  scan? k.nextInParens [')'] (.outside 0) inner = some (.outside 0)

variable {k : Quotes}

theorem fromClosing_eq_cons_iff {s rest : List Char} :
    fromClosing k s = ')' :: rest ↔ ∃ inner, s = inner ++ ')' :: rest ∧ Balanced k inner := by
  constructor
  · intro h
    obtain ⟨hs, -, hinner⟩ := Text.cut_eq_cons_iff.mp (Prod.ext rfl h)
    exact ⟨_, hs, hinner⟩
  · rintro ⟨inner, rfl, hinner⟩
    rw [fromClosing, Text.cut_of_scan hinner (List.mem_singleton_self ')')]

/-- **What a wrapper holds is balanced** exactly if the parenthesis at its end is the one that
closes it. -/
theorem closed_iff_balanced {inner : List Char} : Closed k inner ↔ Balanced k inner := by
  rw [Closed, fromClosing_eq_cons_iff]
  constructor
  · rintro ⟨inner', heq, hinner⟩
    obtain rfl := List.append_cancel_right heq
    exact hinner
  · intro h
    exact ⟨inner, rfl, h⟩

theorem ne_wrap_of_getLast? {w : Wrapper} {rest : List Char} (hrest : rest.getLast? ≠ some ')')
    (w' : Wrapper) (inner : List Char) : w.name ++ '(' :: rest ≠ w'.wrap inner := by
  intro hwrap
  have hlast := congrArg List.getLast? hwrap
  rw [Wrapper.wrap, List.getLast?_concat, List.getLast?_append] at hlast
  cases hrest' : rest.getLast? with
  | none =>
    rw [List.getLast?_eq_none_iff.mp hrest', List.getLast?_singleton, Option.some_or] at hlast
    exact absurd (Option.some.inj hlast) (by decide)
  | some c =>
    rw [List.getLast?_cons, hrest'] at hlast
    rw [hrest'] at hrest
    exact hrest hlast

/-- **A text that begins like a wrapper** is left as it is exactly if it does not end with a
parenthesis. -/
theorem normalizeType_eq_trimmed_iff {type : String} {w : Wrapper} {behind : List Char}
    (hbegin : trimChars type.toList = w.name ++ '(' :: behind) :
    normalizeType type = (String.ofList (trimChars type.toList), false) ↔
      behind.getLast? ≠ some ')' := by
  constructor
  · intro heq hlast
    -- the text would be a wrapper, and no wrapper is left
    obtain ⟨steps, rest, hrun⟩ := Strips.exists_strips (fun _ => True) (trimChars type.toList)
    obtain ⟨inner, rfl⟩ := List.getLast?_eq_some_iff.mp hlast
    rw [normalizeType_of_strips hrun, Prod.mk.injEq, String.ofList_inj] at heq
    refine hrun.not_taken w inner ?_ trivial
    rw [heq.1, hbegin, Wrapper.wrap, List.append_assoc]
    rfl
  · intro hlast
    have hdone : Strips (fun _ => True) (trimChars type.toList) [] (trimChars type.toList) := by
      refine .done fun w' inner hwrap _ => ?_
      rw [hbegin] at hwrap
      exact ne_wrap_of_getLast? hlast w' inner hwrap
    exact normalizeType_of_strips hdone

/-- **Which wrappers are closed where they end.** From the trimmed text the loop strips every
wrapper it finds, and one that strips only wrappers that are closed at the end makes the same
turns up to the first that is not. The results are the same exactly if the text in every
stripped wrapper is balanced. A text that begins like a wrapper is left as it is exactly if
it does not end with a parenthesis, closed or not. -/
theorem normalizeType_matched_iff (k : Quotes) (type : String) :
    (∃ steps rest closed left,
      Strips (fun _ => True) (trimChars type.toList) steps rest ∧
      normalizeType type =
        (String.ofList rest, decide (Wrapper.nullable ∈ steps.map Prod.fst)) ∧
      Strips (Closed k) (trimChars type.toList) closed left ∧ closed <+: steps ∧
      (normalizeType type =
          (String.ofList left, decide (Wrapper.nullable ∈ closed.map Prod.fst)) ↔
        ∀ step ∈ steps, Balanced k step.2)) ∧
    ∀ (w : Wrapper) rest, trimChars type.toList = w.name ++ '(' :: rest →
      (normalizeType type = (String.ofList (trimChars type.toList), false) ↔
        rest.getLast? ≠ some ')') := by
  refine ⟨?_, fun w rest hbegin => normalizeType_eq_trimmed_iff hbegin⟩
  obtain ⟨steps, rest, hrun⟩ := Strips.exists_strips (fun _ => True) (trimChars type.toList)
  obtain ⟨closed, left, hclosed⟩ := Strips.exists_strips (Closed k) (trimChars type.toList)
  have hnormal := normalizeType_of_strips hrun
  obtain ⟨hstart, hall⟩ := hrun.prefix_of_taken hclosed fun _ _ => trivial
  refine ⟨steps, rest, closed, left, hrun, hnormal, hclosed, hstart, ?_⟩
  simp only [← closed_iff_balanced]
  constructor
  · intro heq
    rw [hnormal, Prod.mk.injEq, String.ofList_inj] at heq
    exact hall heq.1.symm
  · intro hsteps
    obtain ⟨rfl, rfl⟩ := hclosed.unique (hrun.of_taken hsteps fun _ _ => trivial)
    exact hnormal

/-- A wrapper that is never closed. -/
theorem normalizeType_matched_iff_of_open :
    trimChars " Nullable(Int32".toList = Wrapper.nullable.name ++ '(' :: "Int32".toList ∧
      normalizeType " Nullable(Int32" = ("Nullable(Int32", false) := by
  have hbegin : trimChars " Nullable(Int32".toList =
      Wrapper.nullable.name ++ '(' :: "Int32".toList := by
    decide +kernel
  have hsame := (normalizeType_matched_iff ⟨['\''], true⟩ " Nullable(Int32").2 .nullable _ hbegin
  exact ⟨hbegin, hsame.mpr (by decide)⟩

/-- **A wrapper that is stripped with the parenthesis of another.** It is closed in front of
the last parenthesis, which closes nothing. -/
theorem stripped_unmatched :
    fromClosing ⟨['\''], true⟩ "Int32))".toList = [')', ')'] ∧
      ¬Balanced ⟨['\''], true⟩ "Int32)".toList ∧
      normalizeType "Nullable(Int32))" = ("Int32)", true) ∧
      normalizeType "Nullable(Int32))" ≠ ("Nullable(Int32))", false) := by
  have hresult : normalizeType "Nullable(Int32))" = ("Int32)", true) := by
    decide +kernel
  refine ⟨by decide, ?_, hresult, ?_⟩
  · rw [Balanced]
    decide
  · rw [hresult]
    decide

end SqlDialect.ClickHouse
