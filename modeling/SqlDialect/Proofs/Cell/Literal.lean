import SqlDialect.ClickHouse.Types
import SqlDialect.Proofs.Cell.Term
/-!
# Every literal is one term

Whatever the category of a column, the style of an engine and the cell,
`Cell.literal` writes exactly one well-formed term (`literal_isTerm`). NULL gives
`NULL` and an array a list with one term for each of its items, in order; any
other cell gives a number, a word of the style or a quoted text, and if the cell
is a text and stands between quotes, what is read back is that text.

The cells fall into three sorts. Numbers are handled in `Proofs.Text.Numeral`.
Dates and times have no character that needs an escape, so writing them between
quotes is the same as quoting them. Bytes that are no text are escaped one by one.
-/

namespace SqlDialect

open Text (AllDigits)

namespace Calendar

def IsClockChar (c : Char) : Prop := Text.isDigit c = true ∨ c ∈ ['-', '+', ':', '.', ' ']

theorem isClockChar_padded (width n : Nat) : ∀ c ∈ Text.padded width n, IsClockChar c := fun c hc =>
  Or.inl (((Text.allDigits_replicate _).append (Text.allDigits_toDigits n)) c hc)

theorem isClockChar_yearText (year : Int) : ∀ c ∈ yearText year, IsClockChar c := by
  unfold yearText
  split
  · exact isClockChar_padded _ _
  · rw [List.forall_mem_cons]
    refine ⟨Or.inr ?_, isClockChar_padded _ _⟩
    split <;> decide

theorem isClockChar_fractionText (nanos : Nat) : ∀ c ∈ fractionText nanos, IsClockChar c := by
  have hpoint : IsClockChar '.' := Or.inr (by decide)
  unfold fractionText
  split
  · simp
  split
  · exact List.forall_mem_cons.mpr ⟨hpoint, isClockChar_padded _ _⟩
  split
  · exact List.forall_mem_cons.mpr ⟨hpoint, isClockChar_padded _ _⟩
  · exact List.forall_mem_cons.mpr ⟨hpoint, isClockChar_padded _ _⟩

theorem Date.isClockChar (d : Date) : ∀ c ∈ d.chars, IsClockChar c := by
  have hhyphen : IsClockChar '-' := Or.inr (by decide)
  simp only [Date.chars, List.forall_mem_append, List.forall_mem_cons]
  exact ⟨⟨isClockChar_yearText _, hhyphen, isClockChar_padded _ _⟩, hhyphen, isClockChar_padded _ _⟩

theorem Time.isClockChar (t : Time) : ∀ c ∈ t.chars, IsClockChar c := by
  have hcolon : IsClockChar ':' := Or.inr (by decide)
  simp only [Time.chars, List.forall_mem_append, List.forall_mem_cons]
  exact ⟨⟨⟨isClockChar_padded _ _, hcolon, isClockChar_padded _ _⟩, hcolon,
    isClockChar_padded _ _⟩, isClockChar_fractionText _⟩

theorem DateTime.isClockChar (t : DateTime) : ∀ c ∈ t.chars ' ', IsClockChar c := by
  simp only [DateTime.chars, List.forall_mem_append, List.forall_mem_cons]
  exact ⟨t.date.isClockChar, Or.inr (by decide), t.time.isClockChar⟩

end Calendar

namespace LiteralStyle

variable {style : LiteralStyle}

/-! ### Texts between quotes -/

theorem rule_escapeChar (style : LiteralStyle) : style.rule.escapeChar = style.escapeChar := by
  funext c
  show (if c = '\'' then [c, c] else _) = if c = '\'' then ['\'', '\''] else _
  split
  · rename_i hc
    rw [hc]
  · rfl

theorem read?_escapeChars (style : LiteralStyle) (s : List Char) :
    style.rule.read? (style.escapeChars s ++ ['\'']) = some (s, []) := by
  have hnil : ([] : List Char).head? ≠ some style.rule.closing := by simp
  have h := Text.QuoteRule.read?_escape style.closing_ne s hnil
  rwa [rule_escapeChar] at h

theorem escapeChars_clock (style : LiteralStyle) {s : List Char}
    (hs : ∀ c ∈ s, Calendar.IsClockChar c) : style.escapeChars s = s := by
  have hquote : ¬Calendar.IsClockChar '\'' := by unfold Calendar.IsClockChar; decide
  have hslash : ¬Calendar.IsClockChar '\\' := by unfold Calendar.IsClockChar; decide
  induction s with
  | nil => rfl
  | cons c s ih =>
    have hc : Calendar.IsClockChar c := hs c (List.mem_cons_self ..)
    have hc1 : c ≠ '\'' := fun h => hquote (h ▸ hc)
    have hc2 : c ≠ '\\' := fun h => hslash (h ▸ hc)
    have ih : s.flatMap style.escapeChar = s := ih fun d hd => hs d (List.mem_cons_of_mem _ hd)
    rw [escapeChars, List.flatMap_cons, ih, escapeChar, if_neg hc1, if_neg fun h => hc2 h.1]
    rfl

/-- Nothing is escaped in a date or a time, so quotes around it are enough. -/
theorem quote_clock (style : LiteralStyle) {s : List Char}
    (hs : ∀ c ∈ s, Calendar.IsClockChar c) :
    "'" ++ String.ofList s ++ "'" = style.quote (String.ofList s) := by
  apply String.toList_injective
  rw [quote, String.toList_ofList, String.toList_ofList, quoteChars, escapeChars_clock style hs]
  simp

/-! ### Bytes between quotes -/

theorem hexDigit_plain (n : Nat) (hn : n < 16) :
    Text.hexDigit true n ≠ '\'' ∧ Text.hexDigit true n ≠ '\\' := by
  revert n
  decide

theorem hexValue?_hexDigit {n : Nat} (hn : n < 16) :
    Text.hexValue? (Text.hexDigit true n) = some n := by
  revert n
  decide

theorem hexDigitsValue?_hexByte (b : UInt8) :
    Text.hexDigitsValue? (Text.hexByte true b) = some b.toNat := by
  have hb : b.toNat < 256 := b.toNat_lt
  have hsum : b.toNat / 16 * 16 + b.toNat % 16 = b.toNat := by omega
  simp [Text.hexDigitsValue?, Text.hexByte, hexValue?_hexDigit (show b.toNat / 16 < 16 by omega),
    hexValue?_hexDigit (show b.toNat % 16 < 16 by omega), hsum]

theorem ofNat_plain (n : Nat) (hn : n < 127) (hquote : n ≠ 0x27) (hslash : n ≠ 0x5C) :
    Char.ofNat n ≠ '\'' ∧ Char.ofNat n ≠ '\\' := by
  revert n
  decide

theorem closes_escapeByte (hb : style.backslashEscapes = true) (b : UInt8) (s : List Char) :
    style.rule.Closes (escapeByte b ++ s) ↔ style.rule.Closes s := by
  have hplain {c : Char} (hc : c ≠ '\'' ∧ c ≠ '\\') (s : List Char) :
      style.rule.Closes (c :: s) ↔ style.rule.Closes s :=
    Text.QuoteRule.closes_map_iff (Text.QuoteRule.read?_plain hc.1 (fun h => hc.2 h.1) s)
  unfold escapeByte
  split
  · exact Text.QuoteRule.closes_map_iff (Text.QuoteRule.read?_doubled style.closing_ne s)
  split
  · exact Text.QuoteRule.closes_map_iff (Text.QuoteRule.read?_backslash hb _ s)
  split
  · rename_i h27 h5C hprint
    refine hplain (ofNat_plain b.toNat ?_ ?_ ?_) s
    · have hle := UInt8.le_iff_toNat_le.mp hprint.2
      exact Nat.lt_succ_of_le hle
    · exact fun h => h27 (UInt8.toNat_inj.mp h)
    · exact fun h => h5C (UInt8.toNat_inj.mp h)
  · rw [Text.hexByte]
    simp only [List.cons_append, List.nil_append]
    rw [Text.QuoteRule.closes_map_iff (Text.QuoteRule.read?_backslash hb _ _),
      hplain (hexDigit_plain _ (by have := b.toNat_lt; omega)),
      hplain (hexDigit_plain _ (by omega))]

theorem closes_escapeBytes (hb : style.backslashEscapes = true) (data : List UInt8) :
    style.rule.Closes (data.flatMap escapeByte ++ ['\'']) := by
  induction data with
  | nil => exact ⟨[], Text.QuoteRule.read?_closing style.closing_ne (by simp)⟩
  | cons b data ih => rwa [List.flatMap_cons, List.append_assoc, closes_escapeByte hb]

/-- Bytes are one quoted text. -/
theorem closes_quoteByteChars (style : LiteralStyle) (data : List UInt8) :
    ∃ written, style.quoteByteChars data = '\'' :: (written ++ ['\'']) ∧
      style.rule.Closes (written ++ ['\'']) := by
  unfold quoteByteChars
  split
  · exact ⟨_, rfl, _, read?_escapeChars style _⟩
  · split
    · rename_i hb
      exact ⟨_, rfl, closes_escapeBytes hb data⟩
    · exact ⟨_, rfl, _, read?_escapeChars style _⟩

end LiteralStyle

namespace Cell

/-- To prove something of all cells, it is enough to prove it of an array from its
items and of every other cell as it is. -/
theorem ind {motive : Cell → Prop}
    (array : ∀ items, (∀ c ∈ items, motive c) → motive (.array items))
    (other : ∀ c, (∀ items, c ≠ .array items) → motive c) : ∀ c, motive c
  | .array items => array items fun c _ => ind array other c
  | .null => other _ (by simp)
  | .bool _ => other _ (by simp)
  | .int8 _ => other _ (by simp)
  | .int16 _ => other _ (by simp)
  | .int32 _ => other _ (by simp)
  | .int64 _ => other _ (by simp)
  | .uint64 _ => other _ (by simp)
  | .float32 _ => other _ (by simp)
  | .float64 _ => other _ (by simp)
  | .decimal _ => other _ (by simp)
  | .string _ => other _ (by simp)
  | .bytes _ => other _ (by simp)
  | .uuid _ => other _ (by simp)
  | .date _ => other _ (by simp)
  | .time _ => other _ (by simp)
  | .dateTime _ => other _ (by simp)
  | .dateTimeUtc _ => other _ (by simp)
  | .json _ => other _ (by simp)

/-- Neither NULL nor an array. -/
def IsScalar (c : Cell) : Prop := c ≠ null ∧ ∀ items, c ≠ array items

/-- The text of a string or a decimal. -/
def source? : Cell → Option String
  | string s => some s
  | decimal s => some s
  | _ => none

/-- A cell and the term it is written as. A text that stands between quotes is read
back as it was, one that stands as a number loses the blanks at its ends, and one
that stands as a word spells a truth value. -/
inductive ReadAs : Cell → Term → Prop
  | null : ReadAs null .null
  | number {c : Cell} {written : List Char} : c.IsScalar →
      (∀ s, c.source? = some s → written = Text.trimChars s.toList) → ReadAs c (.number written)
  | word {c : Cell} {written : List Char} : c.IsScalar →
      (∀ s, c.source? = some s → ∃ b, truthOfText? s = some b) → ReadAs c (.word written)
  | text {c : Cell} {written content : List Char} : c.IsScalar →
      (∀ s, c.source? = some s → content = s.toList) → ReadAs c (.text written content)
  | list {cs : List Cell} {ts : List Term} : cs.length = ts.length →
      (∀ i (hc : i < cs.length) (ht : i < ts.length), ReadAs cs[i] ts[i]) →
      ReadAs (array cs) (.list ts)

/-- The text is one well-formed term for the cell. -/
def WrittenAs (style : LiteralStyle) (c : Cell) (s : String) : Prop :=
  ∃ t : Term, t.WellFormed style ∧ s.toList = t.render ∧ c.ReadAs t

variable {style : LiteralStyle} {c : Cell}

/-! ### Cells between quotes -/

theorem writtenAs_quote (hc : c.IsScalar) {s : String}
    (hs : ∀ s', c.source? = some s' → s' = s) : WrittenAs style c (style.quote s) := by
  refine ⟨.text (style.escapeChars s.toList) s.toList, .text ?_, ?_, .text hc ?_⟩
  · exact LiteralStyle.read?_escapeChars style s.toList
  · rw [LiteralStyle.quote, String.toList_ofList]
    rfl
  · intro s' hs'
    rw [hs s' hs']

theorem writtenAs_quoteBytes (style : LiteralStyle) (data : List UInt8) :
    WrittenAs style (bytes data) (style.quoteBytes data) := by
  obtain ⟨written, hwritten, content, hcontent⟩ := style.closes_quoteByteChars data
  refine ⟨.text written content, .text hcontent, ?_, .text (by simp [IsScalar]) (by simp [source?])⟩
  rw [LiteralStyle.quoteBytes, String.toList_ofList, hwritten]
  rfl

theorem writtenAs_quoted (style : LiteralStyle) (hc : c.IsScalar) :
    WrittenAs style c (c.quoted style) := by
  cases c with
  | null => exact absurd rfl hc.1
  | array items => exact absurd rfl (hc.2 items)
  | string s => exact writtenAs_quote hc (by simp [source?])
  | decimal s => exact writtenAs_quote hc (by simp [source?])
  | bytes data => exact writtenAs_quoteBytes style data
  | date d =>
    rw [quoted, Calendar.Date.text, style.quote_clock d.isClockChar]
    exact writtenAs_quote hc (by simp [source?])
  | time t =>
    rw [quoted, Calendar.Time.text, style.quote_clock t.isClockChar]
    exact writtenAs_quote hc (by simp [source?])
  | dateTime t =>
    rw [quoted, Calendar.DateTime.text, style.quote_clock t.isClockChar]
    exact writtenAs_quote hc (by simp [source?])
  | dateTimeUtc t =>
    rw [quoted, Calendar.DateTime.text, style.quote_clock t.isClockChar]
    exact writtenAs_quote hc (by simp [source?])
  | _ => exact writtenAs_quote hc (by simp [source?])

/-! ### Numbers and truth values -/

theorem writtenAs_number (hc : c.IsScalar) (hs : c.source? = none) {s : String}
    (h : Text.Numeral s.toList) : WrittenAs style c s :=
  ⟨.number s.toList, .number h, rfl, .number hc (by simp [hs])⟩

theorem writtenAs_word (hc : c.IsScalar)
    (hs : ∀ s, c.source? = some s → ∃ b, truthOfText? s = some b) {s : String}
    (h : s.toList ∈ style.words) : WrittenAs style c s :=
  ⟨.word s.toList, .word h, rfl, .word hc hs⟩

/-- A floating point number of any format: a number, or the word for what it is. -/
theorem writtenAs_float (hc : c.IsScalar) (hs : c.source? = none) (f : Decimal.Format)
    (bits : Nat) (v : Decimal.Datum) :
    f.decode bits = v →
    WrittenAs style c
      (match v with
      | .nan => style.nan
      | .infinite negative => if negative then style.negativeInfinity else style.infinity
      | .finite _ _ _ => Decimal.Layout.plain.write f bits) := by
  intro hv
  have hsource : ∀ s, c.source? = some s → ∃ b, truthOfText? s = some b := by simp [hs]
  cases v with
  | nan => exact writtenAs_word hc hsource (by simp [LiteralStyle.words])
  | infinite negative =>
    refine writtenAs_word hc hsource ?_
    cases negative <;> simp [LiteralStyle.words]
  | finite negative m q => exact writtenAs_number hc hs (Text.numeral_write_plain hv)

theorem writtenAs_numericText (hc : c.IsScalar) {s : String} (hs : c.source? = some s) :
    WrittenAs style c (numericText style s) := by
  have hsource : ∀ s', c.source? = some s' → s' = s := by
    intro s' hs'
    rw [hs] at hs'
    exact (Option.some.inj hs').symm
  unfold numericText
  dsimp only
  split
  · rename_i h
    refine ⟨.number (Text.trimChars s.toList), .number (Text.isPlainNumber_iff.mp h),
      String.toList_ofList, .number hc ?_⟩
    intro s' hs'
    rw [hsource s' hs']
  · exact writtenAs_quote hc hsource

theorem writtenAs_numeric (style : LiteralStyle) (hc : c.IsScalar) :
    WrittenAs style c (c.numeric style) := by
  cases c with
  | int8 n => exact writtenAs_number hc rfl (Text.numeral_int _)
  | int16 n => exact writtenAs_number hc rfl (Text.numeral_int _)
  | int32 n => exact writtenAs_number hc rfl (Text.numeral_int _)
  | int64 n => exact writtenAs_number hc rfl (Text.numeral_int _)
  | uint64 n => exact writtenAs_number hc rfl (Text.numeral_nat _)
  | float32 bits => exact writtenAs_float hc rfl Decimal.binary32 bits.toNat _ rfl
  | float64 bits => exact writtenAs_float hc rfl Decimal.binary64 bits.toNat _ rfl
  | bool b =>
    refine writtenAs_number hc rfl ?_
    cases b with
    | true => exact Text.numeral_nat 1
    | false => exact Text.numeral_nat 0
  | decimal s => exact writtenAs_numericText hc rfl
  | string s => exact writtenAs_numericText hc rfl
  | _ => exact writtenAs_quoted style hc

theorem writtenAs_boolean (style : LiteralStyle) (hc : c.IsScalar) :
    WrittenAs style c (c.boolean style) := by
  unfold boolean
  split
  · rename_i b hb
    refine writtenAs_word hc ?_ ?_
    · intro s hs
      cases c with
      | string s' =>
        cases hs
        exact ⟨b, hb⟩
      | decimal s' => cases hb
      | _ => cases hs
    · cases b <;> simp [LiteralStyle.truth, LiteralStyle.words]
  · exact writtenAs_quoted style hc

/-! ### All cells -/

theorem writtenAs_scalar (category : Category) (style : LiteralStyle) (hc : c.IsScalar) :
    WrittenAs style c (c.scalar category style) := by
  unfold scalar
  split
  · exact writtenAs_numeric style hc
  split
  · exact writtenAs_boolean style hc
  · exact writtenAs_quoted style hc

/-- The items of an array, one term for each. -/
theorem exists_terms {f : Cell → String} {cs : List Cell}
    (h : ∀ c ∈ cs, WrittenAs style c (f c)) :
    ∃ ts : List Term, (∀ t ∈ ts, t.WellFormed style) ∧
      (cs.map fun c => (f c).toList) = ts.map Term.render ∧ cs.length = ts.length ∧
      ∀ i (hc : i < cs.length) (ht : i < ts.length), ReadAs cs[i] ts[i] := by
  induction cs with
  | nil => exact ⟨[], by simp, rfl, rfl, by simp⟩
  | cons c cs ih =>
    obtain ⟨t, ht, hct, hread⟩ := h c (List.mem_cons_self ..)
    obtain ⟨ts, hts, hcts, hlen, hreads⟩ := ih fun d hd => h d (List.mem_cons_of_mem _ hd)
    refine ⟨t :: ts, List.forall_mem_cons.mpr ⟨ht, hts⟩, ?_, ?_, ?_⟩
    · rw [List.map_cons, List.map_cons, hct, hcts]
    · rw [List.length_cons, List.length_cons, hlen]
    · intro i hc ht
      cases i with
      | zero => exact hread
      | succ i => exact hreads i (Nat.lt_of_succ_lt_succ hc) (Nat.lt_of_succ_lt_succ ht)

theorem writtenAs_literal (category : Category) (style : LiteralStyle) (c : Cell) :
    WrittenAs style c (c.literal category style) := by
  induction c using Cell.ind with
  | array items ih =>
    obtain ⟨ts, hts, hrender, hlen, hreads⟩ := exists_terms ih
    refine ⟨.list ts, .list hts, ?_, .list hlen hreads⟩
    rw [literal, literals_eq_map, Term.render, Term.renderItems_eq, ← hrender]
    simp [Function.comp_def]
  | other c hc =>
    by_cases hnull : c = null
    · subst hnull
      exact ⟨.null, .null, rfl, .null⟩
    · have hliteral : c.literal category style = c.scalar category style := by
        cases c with
        | null => exact absurd rfl hnull
        | array items => exact absurd rfl (hc items)
        | _ => rfl
      rw [hliteral]
      exact writtenAs_scalar category style ⟨hnull, hc⟩

/-- **Every literal is one term.** What is written for a cell is a well-formed term
that is read back as the cell, and if the words of the style are single tokens, a
reader cuts exactly the tokens of this term out of any statement. -/
theorem literal_isTerm (category : Category) (style : LiteralStyle) (c : Cell) :
    ∃ t : Term, t.WellFormed style ∧ (c.literal category style).toList = t.render ∧
      c.ReadAs t ∧
      ((∀ w ∈ style.words, style.Atomic w) → ∀ rest, LiteralStyle.Delimited rest →
        style.lex ((c.literal category style).toList ++ rest) =
          (style.lex rest).map (t.tokens ++ ·)) := by
  obtain ⟨t, ht, hrender, hread⟩ := writtenAs_literal category style c
  refine ⟨t, ht, hrender, hread, fun hstyle rest hrest => ?_⟩
  rw [hrender]
  exact Term.lex_render hstyle ht rest hrest

theorem atomic_of_all {w : List Char} (hne : w ≠ [])
    (hw : w.all LiteralStyle.isAtomChar = true) : style.Atomic w :=
  .word hne (List.all_eq_true.mp hw)

/-- The words of the engine are single tokens. -/
theorem atomic_clickHouse : ∀ w ∈ ClickHouse.literals.words, ClickHouse.literals.Atomic w := by
  simp only [LiteralStyle.words, ClickHouse.literals, List.map_cons, List.map_nil,
    List.forall_mem_cons]
  exact ⟨atomic_of_all (by decide) (by decide), atomic_of_all (by decide) (by decide),
    atomic_of_all (by decide) (by decide), atomic_of_all (by decide) (by decide),
    atomic_of_all (by decide) (by decide), by simp⟩

/-- A text that tries to end its quotes early, in a list and before more text. -/
theorem literal_isTerm_of_quote :
    ∃ t : Term, t.WellFormed ClickHouse.literals ∧
      ((array [string "a\\'); DROP"]).literal .string ClickHouse.literals).toList = t.render ∧
      ClickHouse.literals.lex ("['a\\\\''); DROP']".toList ++ [',', '1']) =
        (ClickHouse.literals.lex [',', '1']).map (t.tokens ++ ·) := by
  obtain ⟨t, ht, hrender, -, hlex⟩ :=
    literal_isTerm .string ClickHouse.literals (array [string "a\\'); DROP"])
  exact ⟨t, ht, hrender, hlex atomic_clickHouse _ (Term.delimited_cons (by decide) _)⟩

end Cell

end SqlDialect
