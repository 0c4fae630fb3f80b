import SqlDialect.ClickHouse.Template
import SqlDialect.Proofs.Cell.Literal
import SqlDialect.Proofs.Text.Utf8
/-!
# Parameters and literals

A cell can be bound to a place of a template or be written into the statement as a literal of
a text column. What is bound is a text; what a literal stands for is read back by `bytes?`.

A literal of a text has the bytes of that text (`bytes?_quoteChars`), and one of bytes has
those bytes, escaped one by one where they are no text (`bytes?_quoteByteChars`). A bound text
has no such escape. So the two ways agree on every cell that stands between quotes, except on
bytes that are no text (`bound_eq_written_iff`).
-/

namespace SqlDialect.ClickHouse

open Text (hexDigitsValue? hexByte)
open Text.Utf8

namespace Quotation

/-! ### Reading a literal back -/

/-- The bytes up to the closing quote: two quotes are a quote, two backslashes a backslash, `\x`
and two digits are that byte, and any other character has its own bytes. -/
def rest? : List Char → Option (List UInt8)
  | [] => none
  | '\'' :: r =>
    match r with
    | [] => some []
    | '\'' :: r => (rest? r).map (0x27 :: ·)
    | _ => none
  | '\\' :: r =>
    match r with
    | '\\' :: r => (rest? r).map (0x5C :: ·)
    | 'x' :: high :: low :: r =>
      (hexDigitsValue? [high, low]).bind fun n => (rest? r).map (UInt8.ofNat n :: ·)
    | _ => none
  | c :: r => (rest? r).map (String.utf8EncodeChar c ++ ·)

/-- The bytes that a text between single quotes stands for. -/
def bytes? : List Char → Option (List UInt8)
  | '\'' :: r => rest? r
  | _ => none

theorem rest?_plain {c : Char} (hquote : c ≠ '\'') (hslash : c ≠ '\\') (r : List Char) :
    rest? (c :: r) = (rest? r).map (String.utf8EncodeChar c ++ ·) := by
  rw [rest?]
  · exact hquote
  · exact hslash

/-! ### Texts -/

theorem rest?_escapeChar (c : Char) (r : List Char) :
    rest? (literals.escapeChar c ++ r) = (rest? r).map (String.utf8EncodeChar c ++ ·) := by
  unfold LiteralStyle.escapeChar
  split
  next hquote =>
    subst hquote
    rfl
  split
  next hslash =>
    obtain ⟨rfl, -⟩ := hslash
    rfl
  next hquote hslash =>
    exact rest?_plain hquote (fun h => hslash ⟨h, rfl⟩) r

theorem rest?_escapeChars (s : List Char) :
    rest? (literals.escapeChars s ++ ['\'']) = some (encode s) := by
  unfold LiteralStyle.escapeChars
  induction s with
  | nil => rfl
  | cons c s ih =>
    rw [List.flatMap_cons, List.append_assoc, rest?_escapeChar, ih, encode_cons, Option.map_some]

theorem bytes?_quoteChars (s : List Char) :
    bytes? (literals.quoteChars s) = some (encode s) :=
  rest?_escapeChars s

/-! ### Bytes -/

theorem rest?_escapeByte (b : UInt8) (r : List Char) :
    rest? (LiteralStyle.escapeByte b ++ r) = (rest? r).map (b :: ·) := by
  unfold LiteralStyle.escapeByte
  split
  next hquote =>
    subst hquote
    rfl
  split
  next hslash =>
    subst hslash
    rfl
  split
  next hquote hslash hprint =>
    have hle : b.toNat ≤ 0x7E := UInt8.le_iff_toNat_le.mp hprint.2
    obtain ⟨h1, h2⟩ := LiteralStyle.ofNat_plain b.toNat (by omega)
      (fun h => hquote (UInt8.toNat_inj.mp h)) (fun h => hslash (UInt8.toNat_inj.mp h))
    rw [List.singleton_append, rest?_plain h1 h2, utf8EncodeChar_toNat (by omega)]
    rfl
  next =>
    have hvalue := LiteralStyle.hexDigitsValue?_hexByte b
    rw [hexByte] at hvalue ⊢
    show (hexDigitsValue? _).bind _ = _
    rw [hvalue, Option.bind_some, UInt8.ofNat_toNat]
    rfl

theorem rest?_escapeBytes (data : List UInt8) :
    rest? (data.flatMap LiteralStyle.escapeByte ++ ['\'']) = some data := by
  induction data with
  | nil => rfl
  | cons b data ih =>
    rw [List.flatMap_cons, List.append_assoc, rest?_escapeByte, ih, Option.map_some]

/-- A literal of bytes stands for exactly these bytes, whether or not they are text. -/
theorem bytes?_quoteByteChars (data : List UInt8) :
    bytes? (literals.quoteByteChars data) = some data := by
  unfold LiteralStyle.quoteByteChars
  split
  next s hs => rw [bytes?_quoteChars, decode?_eq_some_iff.mp hs]
  next =>
    rw [if_pos (show literals.backslashEscapes = true from rfl)]
    exact rest?_escapeBytes data

end Quotation

/-! ### Both ways -/

/-- The cells that stand between quotes, bound or written. -/
def StandsQuoted : Cell → Prop
  | .decimal _ | .string _ | .bytes _ | .uuid _ | .date _ | .time _ | .dateTime _
  | .dateTimeUtc _ | .json _ => True
  | _ => False

/-- Everything but bytes is written as the text that is bound. -/
theorem literal_eq_quote {c : Cell} {s : List Char} (hs : paramText? c = some s)
    (hc : ∀ data, c ≠ .bytes data) (style : LiteralStyle) :
    c.literal .string style = style.quote (String.ofList s) := by
  cases c with
  | bytes data => exact absurd rfl (hc data)
  | decimal t | string t | uuid u | json j =>
    have h := Option.some.inj hs
    rw [← h, String.ofList_toList]
    rfl
  | date t | time t | dateTime t | dateTimeUtc t =>
    have h := Option.some.inj hs
    rw [← h, String.ofList_toList]
    exact LiteralStyle.quote_clock style t.isClockChar
  | _ => simp [paramText?] at hs

theorem encode_decodeLossy_iff (data : List UInt8) :
    encode (decodeLossy data) = data ↔ (decode? data).isSome := by
  rw [Option.isSome_iff_exists]
  constructor
  · intro h
    exact ⟨_, decode?_eq_some_iff.mpr h.symm⟩
  · rintro ⟨s, hs⟩
    rw [decode?_eq_some_iff.mp hs, decodeLossy_encode]

/-- **A cell that stands between quotes is bound with the bytes that its literal stands for,
except for bytes that are no text.** -/
theorem bound_eq_written_iff (c : Cell) (hc : StandsQuoted c) :
    ∃ bound written, paramText? c = some bound ∧ param? c = some (quoteParam bound) ∧
      Quotation.bytes? (c.literal .string literals).toList = some written ∧
      (∀ data, c = .bytes data → written = data) ∧
      (encode bound = written ↔ ∀ data, c = .bytes data → (decode? data).isSome) := by
  by_cases hbytes : ∃ data, c = .bytes data
  · obtain ⟨data, rfl⟩ := hbytes
    refine ⟨decodeLossy data, data, rfl, rfl, ?_, ?_, ?_⟩
    · show Quotation.bytes? (literals.quoteBytes data).toList = _
      rw [LiteralStyle.quoteBytes, String.toList_ofList, Quotation.bytes?_quoteByteChars]
    · rintro _ ⟨⟩
      rfl
    · rw [encode_decodeLossy_iff]
      constructor
      · rintro h _ ⟨⟩
        exact h
      · exact fun h => h data rfl
  · have hother : ∀ data, c ≠ .bytes data := fun data h => hbytes ⟨data, h⟩
    obtain ⟨s, hs, hp⟩ : ∃ s, paramText? c = some s ∧ param? c = some (quoteParam s) := by
      cases c <;> first | exact hc.elim | exact ⟨_, rfl, rfl⟩
    refine ⟨s, encode s, hs, hp, ?_, fun data h => absurd h (hother data), ?_⟩
    · rw [literal_eq_quote hs hother, LiteralStyle.quote, String.toList_ofList,
        String.toList_ofList, Quotation.bytes?_quoteChars]
    · exact iff_of_true rfl fun data h => absurd h (hother data)

theorem bound_eq_written_quote :
    ∃ bound written, paramText? (.string "it's") = some bound ∧
      Quotation.bytes? ((Cell.string "it's").literal .string literals).toList = some written ∧
      encode bound = written := by
  obtain ⟨bound, written, hbound, -, hwritten, -, hiff⟩ :=
    bound_eq_written_iff (.string "it's") trivial
  exact ⟨bound, written, hbound, hwritten, hiff.mpr fun _ h => nomatch h⟩

/-- A byte that begins no character is bound as the replacement character. -/
theorem bound_replaced :
    (paramText? (.bytes [0xFF])).map encode = some [0xEF, 0xBF, 0xBD] ∧
      Quotation.bytes? ((Cell.bytes [0xFF]).literal .string literals).toList = some [0xFF] := by
  decide

end SqlDialect.ClickHouse
