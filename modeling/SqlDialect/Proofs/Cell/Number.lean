import SqlDialect.Proofs.Cell.Literal
/-!
# Texts in numeric columns

A string or a decimal in a numeric column is written without quotes exactly if it is
a number by the grammar `Text.Numeral`, blanks at its ends apart
(`literal_unquoted_iff`). It then stands as it is, without these blanks. Every other
text stands between quotes, blanks and all: words for infinite values, other bases,
two signs, a number with a blank inside it.
-/

namespace SqlDialect.Cell

open Text (Numeral trimChars)

variable {style : LiteralStyle}

/-- In a numeric column the text of a string or a decimal decides. -/
theorem literal_of_source {category : Category} (hcategory : category.isNumeric = true) {c : Cell}
    {s : String} (hs : c.source? = some s) : c.literal category style = numericText style s := by
  cases c with
  | string t =>
    obtain rfl : t = s := Option.some.inj hs
    rw [literal, scalar, if_pos hcategory, numeric]
    all_goals simp
  | decimal t =>
    obtain rfl : t = s := Option.some.inj hs
    rw [literal, scalar, if_pos hcategory, numeric]
    all_goals simp
  | _ => cases hs

theorem numericText_of_numeral {s : String} (h : Numeral (trimChars s.toList)) :
    numericText style s = Text.trim s := by
  rw [numericText, Text.trim]
  exact if_pos (Text.isPlainNumber_iff.mpr h)

theorem numericText_of_not_numeral {s : String} (h : ¬Numeral (trimChars s.toList)) :
    numericText style s = style.quote s := by
  rw [numericText]
  exact if_neg (mt Text.isPlainNumber_iff.mp h)

theorem not_isNumeralChar_quote : ¬Text.IsNumeralChar '\'' := by
  decide

/-- **When a text stands without quotes.** In a numeric column this is so exactly if
it is a number between blanks. The number is then written as it is; any other text is
quoted with its blanks, and the reader of the style finds just this text. -/
theorem literal_unquoted_iff {category : Category} (hcategory : category.isNumeric = true)
    (style : LiteralStyle) {c : Cell} {s : String} (hs : c.source? = some s) :
    ((c.literal category style).toList.head? ≠ some '\'' ↔ Numeral (trimChars s.toList)) ∧
      (Numeral (trimChars s.toList) →
        (c.literal category style).toList = trimChars s.toList) ∧
      (¬Numeral (trimChars s.toList) → c.literal category style = style.quote s ∧
        ∃ body, (c.literal category style).toList = '\'' :: body ∧
          style.rule.read? body = some (s.toList, [])) := by
  rw [literal_of_source hcategory hs]
  by_cases h : Numeral (trimChars s.toList)
  · have htext : (numericText style s).toList = trimChars s.toList := by
      rw [numericText_of_numeral h, Text.trim, String.toList_ofList]
    refine ⟨iff_of_true ?_ h, fun _ => htext, fun hn => absurd h hn⟩
    rw [htext]
    intro hquote
    exact not_isNumeralChar_quote (h.chars _ (List.mem_of_mem_head? hquote))
  · have htext : (numericText style s).toList = '\'' :: (style.escapeChars s.toList ++ ['\'']) := by
      rw [numericText_of_not_numeral h, LiteralStyle.quote, String.toList_ofList]
      rfl
    refine ⟨iff_of_false ?_ h, fun hn => absurd hn h, fun _ => ?_⟩
    · rw [htext]
      exact not_not_intro rfl
    · exact ⟨numericText_of_not_numeral h, _, htext, LiteralStyle.read?_escapeChars style _⟩

/-- A number that begins with a point, and two numbers that look like an expression. -/
theorem literal_unquoted_of_point :
    ((decimal " .5e-3\n").literal .decimal LiteralStyle.ansi).toList = ".5e-3".toList ∧
      (string " 1--2").literal .int4 LiteralStyle.ansi = "' 1--2'" := by
  have hpoint : Numeral (trimChars " .5e-3\n".toList) := Text.isPlainNumber_iff.mp (by decide)
  have hminus : ¬Numeral (trimChars " 1--2".toList) := mt Text.isPlainNumber_iff.mpr (by decide)
  exact ⟨(@literal_unquoted_iff .decimal rfl _ (decimal " .5e-3\n") _ rfl).2.1 hpoint,
    ((@literal_unquoted_iff .int4 rfl _ (string " 1--2") _ rfl).2.2 hminus).1⟩

example : ∀ s ∈ ["inf", "-Infinity", "nan", "0x1F", "+", "", ".", "1e", "1 2", "1_000"],
    (string s).literal .numeric LiteralStyle.ansi = LiteralStyle.ansi.quote s := by
  decide

end SqlDialect.Cell
