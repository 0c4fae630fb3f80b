import SqlDialect.Cell.Literal
import SqlDialect.Proofs.Text.Numeral
import SqlDialect.Proofs.Text.TopLevel
/-!
# Literal terms

A `Term` is a literal as SQL has it: the word `NULL`, a number, a word of the
engine, a text between single quotes, or a list of terms between brackets. It is
`WellFormed` if each of its parts is what it is taken for; of a quoted text this
asks that the reader of the style finds its end at its last quote.

`lex` cuts a text into the tokens of a style. `lex_render`: before anything that
does not continue a word or a quote, a well-formed term is cut into exactly its
own tokens, so what stands around a literal cannot change it and it changes
nothing of what stands around it. A reader that knows only quotes, and brackets
or not even these, is behind a term where it was in front of it (`scan?_render`).
-/

namespace SqlDialect

namespace LiteralStyle

variable {style : LiteralStyle}

/-- The grammar of a text between single quotes. -/
def rule (style : LiteralStyle) : Text.QuoteRule := ⟨'\'', style.backslashEscapes⟩

/-- The words that stand for truth values and for numbers that are none. -/
def words (style : LiteralStyle) : List (List Char) :=
  [style.yes, style.no, style.nan, style.infinity, style.negativeInfinity].map String.toList

theorem closing_ne (style : LiteralStyle) : style.rule.closing ≠ '\\' := by
  show '\'' ≠ '\\'
  decide

/-! ### Tokens -/

/-- A character of a number or a word. -/
def isAtomChar (c : Char) : Bool := isWordChar c || c == '.' || c == '+' || c == '-'

/-- The tokens of a text, each as it is written: brackets, commas, quoted texts
and runs of characters of a number or a word, with blanks between them. -/
def lex (style : LiteralStyle) : List Char → Option (List (List Char))
  | [] => some []
  | c :: s =>
    if c = ' ' then lex style s
    else if c = '[' ∨ c = ']' ∨ c = ',' then (lex style s).map ([c] :: ·)
    else if c = '\'' then
      match h : style.rule.read? s with
      | some (_, rest) =>
        have : rest.length < s.length := Text.QuoteRule.length_read?_lt h
        (lex style rest).map ((c :: s.take (s.length - rest.length)) :: ·)
      | none => none
    else if isAtomChar c then
      have := (List.dropWhile_sublist (l := s) isAtomChar).length_le
      (lex style (s.dropWhile isAtomChar)).map ((c :: s.takeWhile isAtomChar) :: ·)
    else none
  termination_by s => s.length

/-- What continues neither a word nor a quoted text. -/
def Delimited (rest : List Char) : Prop :=
  ∀ c, rest.head? = some c → isAtomChar c = false ∧ c ≠ '\''

/-- A single token: characters of a word, or one quoted text. -/
inductive Atomic (style : LiteralStyle) : List Char → Prop
  | word {w : List Char} : w ≠ [] → (∀ c ∈ w, isAtomChar c = true) → Atomic style w
  | text {body content : List Char} : style.rule.read? body = some (content, []) →
      Atomic style ('\'' :: body)

theorem lex_word {w rest : List Char} (hne : w ≠ []) (hw : ∀ c ∈ w, isAtomChar c = true)
    (hrest : Delimited rest) : style.lex (w ++ rest) = (style.lex rest).map (w :: ·) := by
  cases w with
  | nil => exact absurd rfl hne
  | cons c w =>
    have hc : isAtomChar c = true := hw c (List.mem_cons_self ..)
    have hw' : ∀ d ∈ w, isAtomChar d = true := fun d hd => hw d (List.mem_cons_of_mem _ hd)
    have hstop : rest.takeWhile isAtomChar = [] ∧ rest.dropWhile isAtomChar = rest := by
      cases rest with
      | nil => exact ⟨rfl, rfl⟩
      | cons d rest => simp [(hrest d rfl).1]
    have hdiff : ∀ d, isAtomChar d = false → c ≠ d := by
      rintro d hd rfl
      rw [hc] at hd
      cases hd
    rw [List.cons_append, lex, if_neg (hdiff ' ' (by decide)), if_neg,
      if_neg (hdiff '\'' (by decide)), if_pos hc, List.dropWhile_append_of_pos hw',
      List.takeWhile_append_of_pos hw', hstop.1, hstop.2, List.append_nil]
    rintro (h | h | h)
    · exact hdiff '[' (by decide) h
    · exact hdiff ']' (by decide) h
    · exact hdiff ',' (by decide) h

theorem lex_text {body content rest : List Char} (h : style.rule.read? body = some (content, []))
    (hrest : rest.head? ≠ some '\'') :
    style.lex ('\'' :: body ++ rest) = (style.lex rest).map (('\'' :: body) :: ·) := by
  have hr := Text.QuoteRule.read?_append style.closing_ne (fun _ => hrest) h
  rw [List.nil_append] at hr
  rw [List.cons_append, lex, if_neg (by decide), if_neg (by decide), if_pos rfl]
  split
  · rename_i inner rest' h'
    rw [hr] at h'
    cases h'
    simp
  · rename_i h'
    rw [hr] at h'
    cases h'

theorem lex_mark {c : Char} (hc : c = '[' ∨ c = ']' ∨ c = ',') (rest : List Char) :
    style.lex (c :: rest) = (style.lex rest).map ([c] :: ·) := by
  rw [lex, if_neg, if_pos hc]
  rintro rfl
  revert hc
  decide

theorem lex_blank (rest : List Char) : style.lex (' ' :: rest) = style.lex rest := by
  rw [lex, if_pos rfl]

theorem Atomic.lex {w rest : List Char} (h : style.Atomic w) (hrest : Delimited rest) :
    style.lex (w ++ rest) = (style.lex rest).map (w :: ·) := by
  cases h with
  | word hne hw => exact lex_word hne hw hrest
  | text h => exact lex_text h fun h => (hrest _ h).2 rfl

end LiteralStyle

/-! ### Terms -/

/-- A literal of SQL. Of a text both are given, what stands between its quotes and
what is meant by it. -/
inductive Term
  | null
  | number (written : List Char)
  | word (written : List Char)
  | text (written content : List Char)
  | list (items : List Term)

namespace Term

mutual

def render : Term → List Char
  | null => "NULL".toList
  | number written => written
  | word written => written
  | text written _ => '\'' :: (written ++ ['\''])
  | list items => '[' :: (renderItems items ++ [']'])

def renderItems : List Term → List Char
  | [] => []
  | [t] => t.render
  | t :: u :: ts => t.render ++ ',' :: ' ' :: renderItems (u :: ts)

end

theorem renderItems_eq (ts : List Term) :
    renderItems ts = [',', ' '].intercalate (ts.map render) := by
  induction ts with
  | nil => rfl
  | cons t ts ih =>
    cases ts with
    | nil => simp [renderItems]
    | cons u ts =>
      rw [renderItems, ih, List.map_cons, List.map_cons, List.map_cons,
        List.intercalate_cons_cons]
      simp

mutual

def tokens : Term → List (List Char)
  | list items => ['['] :: (itemTokens items ++ [[']']])
  | null => [render null]
  | number written => [written]
  | word written => [written]
  | text written content => [render (text written content)]

def itemTokens : List Term → List (List Char)
  | [] => []
  | [t] => t.tokens
  | t :: u :: ts => t.tokens ++ [','] :: itemTokens (u :: ts)

end

/-- Every part of the term is what it is taken for. -/
inductive WellFormed (style : LiteralStyle) : Term → Prop
  | null : WellFormed style null
  | number {written : List Char} : Text.Numeral written → WellFormed style (number written)
  | word {written : List Char} : written ∈ style.words → WellFormed style (word written)
  | text {written content : List Char} :
      style.rule.read? (written ++ ['\'']) = some (content, []) →
      WellFormed style (text written content)
  | list {items : List Term} : (∀ t ∈ items, WellFormed style t) → WellFormed style (list items)

variable {style : LiteralStyle}

open LiteralStyle (isAtomChar Delimited)

theorem isAtomChar_of_numeral {s : List Char} (h : Text.Numeral s) :
    ∀ c ∈ s, isAtomChar c = true := by
  have hother : ∀ c ∈ ['+', '-', '.', 'e', 'E'], isAtomChar c = true :=
    List.all_eq_true.mp (by decide)
  intro c hc
  rcases h.chars c hc with hd | hc
  · simp [isAtomChar, isWordChar, hd]
  · exact hother c hc

theorem delimited_cons {c : Char} (hc : isAtomChar c = false ∧ c ≠ '\'') (rest : List Char) :
    Delimited (c :: rest) := by
  rintro d hd
  cases hd
  exact hc

/-- The tokens of a list are those of its items, if these are cut as they should be. -/
theorem lex_renderItems {items : List Term}
    (ih : ∀ t ∈ items, ∀ rest, Delimited rest →
      style.lex (t.render ++ rest) = (style.lex rest).map (t.tokens ++ ·)) :
    ∀ rest, Delimited rest →
      style.lex (renderItems items ++ rest) = (style.lex rest).map (itemTokens items ++ ·) := by
  intro rest hrest
  induction items with
  | nil => simp [renderItems, itemTokens]
  | cons t ts iht =>
    cases ts with
    | nil =>
      rw [renderItems, itemTokens]
      exact ih t (List.mem_cons_self ..) rest hrest
    | cons u ts =>
      have hts := iht fun v hv => ih v (List.mem_cons_of_mem _ hv)
      rw [renderItems, itemTokens, List.append_assoc, List.cons_append, List.cons_append,
        ih t (List.mem_cons_self ..) _ (delimited_cons (by decide) _),
        LiteralStyle.lex_mark (by decide), LiteralStyle.lex_blank, hts]
      simp [Option.map_map, Function.comp_def]

/-- **A term is cut into its own tokens**, whatever stands behind it. -/
theorem lex_render (hstyle : ∀ w ∈ style.words, style.Atomic w) {t : Term}
    (ht : t.WellFormed style) :
    ∀ rest, Delimited rest →
      style.lex (t.render ++ rest) = (style.lex rest).map (t.tokens ++ ·) := by
  induction ht with
  | null =>
    intro rest hrest
    exact LiteralStyle.lex_word (by decide) (List.all_eq_true.mp (by decide)) hrest
  | number h =>
    intro rest hrest
    exact LiteralStyle.lex_word h.ne_nil (isAtomChar_of_numeral h) hrest
  | word h =>
    intro rest hrest
    exact (hstyle _ h).lex hrest
  | text h =>
    intro rest hrest
    exact LiteralStyle.lex_text h fun h => (hrest _ h).2 rfl
  | list h ih =>
    intro rest hrest
    rw [render, tokens, List.cons_append, List.append_assoc, List.cons_append, List.nil_append,
      LiteralStyle.lex_mark (by decide), lex_renderItems ih _ (delimited_cons (by decide) _),
      LiteralStyle.lex_mark (by decide)]
    simp [Option.map_map, Function.comp_def]

/-- **A term is gone through** by a reader that knows the quotes of texts. In front
of a term the reader stands outside quotes, within a list it may count brackets. -/
theorem scan?_render {k : Text.Quotes} {step : Text.Place → Char → Text.Place}
    {stops : List Char} (depth : Nat → Nat) (hstep : k.KnownBy step)
    (hb : style.rule.backslash = k.backslash) (hmark : '\'' ∈ k.marks) (hstop : '\'' ∉ stops)
    (hword : ∀ w, w = "NULL".toList ∨ Text.Numeral w ∨ w ∈ style.words → ∀ n,
      Text.scan? step stops (.outside (depth n)) w = some (.outside (depth n)))
    (hopen : ∀ n, Text.scan? step stops (.outside (depth n)) ['['] =
      some (.outside (depth (n + 1))))
    (hcomma : ∀ n, Text.scan? step stops (.outside (depth (n + 1))) [',', ' '] =
      some (.outside (depth (n + 1))))
    (hclose : ∀ n, Text.scan? step stops (.outside (depth (n + 1))) [']'] =
      some (.outside (depth n)))
    {t : Term} (ht : t.WellFormed style) :
    ∀ n, Text.scan? step stops (.outside (depth n)) t.render = some (.outside (depth n)) := by
  induction ht with
  | null => exact hword _ (Or.inl rfl)
  | number h => exact hword _ (Or.inr (Or.inl h))
  | word h => exact hword _ (Or.inr (Or.inr h))
  | text h =>
    intro n
    rw [render, hstep.scan?_mark hmark hstop]
    exact hstep.scan?_quoted hb hmark style.closing_ne hstop (depth n) h
  | list h ih =>
    intro n
    have hitems := Text.scan?_intercalate (hcomma n)
      (List.forall_mem_map.mpr fun t ht => ih t ht (n + 1))
    rw [render, renderItems_eq]
    exact Text.scan?_append_of (hopen n) (Text.scan?_append_of hitems (hclose n))

end Term

end SqlDialect
