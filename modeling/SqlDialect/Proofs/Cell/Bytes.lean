import SqlDialect.Proofs.Cell.Literal
import SqlDialect.Proofs.Text.Utf8
/-!
# Bytes in a literal

An engine reads a literal byte by byte. `unquote?` is such a reader for styles in
which a backslash escapes: between the quotes a quote is written twice, a backslash
too, `\x` and two digits are a byte, and every other byte is itself.

Bytes are written in two ways. If they are a text, its characters are escaped. Of a
character of several bytes none can be taken for a quote or a backslash, so the reader
takes them as they are (`unescape?_escapeChar`). Otherwise each byte is escaped
by itself and written in ASCII (`unescape?_escapeByte`). One reader undoes both
(`unquote?_quoteByteChars`), so no two sequences of bytes share a literal.
-/

namespace SqlDialect

namespace LiteralStyle

open Text (hexDigit hexByte)
open Text.Utf8

/-! ### A reader of bytes -/

/-- The byte that two hexadecimal digits spell. -/
def hexPair? (high low : UInt8) : Option UInt8 :=
  (Text.hexDigitsValue? [Char.ofNat high.toNat, Char.ofNat low.toNat]).map UInt8.ofNat

/-- The bytes that are meant, up to a closing quote that is the last byte. -/
def unescape? : List UInt8 → Option (List UInt8)
  | [] => none
  | [b] => if b = 0x27 then some [] else none
  | b :: c :: r =>
    if b = 0x27 then
      if c = 0x27 then (unescape? r).map (b :: ·) else none
    else if b = 0x5C then
      if c = 0x5C then (unescape? r).map (b :: ·)
      else if c = 0x78 then
        match r with
        | high :: low :: r => (hexPair? high low).bind fun v => (unescape? r).map (v :: ·)
        | _ => none
      else none
    else (unescape? (c :: r)).map (b :: ·)

/-- The bytes that a literal between single quotes means. -/
def unquote? : List UInt8 → Option (List UInt8)
  | [] => none
  | b :: r => if b = 0x27 then unescape? r else none

theorem unescape?_quote (r : List UInt8) :
    unescape? (0x27 :: 0x27 :: r) = (unescape? r).map (0x27 :: ·) := by
  rw [unescape?.eq_def]
  rfl

theorem unescape?_slash (r : List UInt8) :
    unescape? (0x5C :: 0x5C :: r) = (unescape? r).map (0x5C :: ·) := by
  rw [unescape?.eq_def]
  rfl

theorem unescape?_hex {high low v : UInt8} (hv : hexPair? high low = some v) (r : List UInt8) :
    unescape? (0x5C :: 0x78 :: high :: low :: r) = (unescape? r).map (v :: ·) := by
  rw [unescape?.eq_def]
  show (hexPair? high low).bind _ = _
  rw [hv, Option.bind_some]

/-- Neither a quote nor a backslash. -/
def IsPlainByte (b : UInt8) : Prop := b ≠ 0x27 ∧ b ≠ 0x5C

theorem unescape?_plain {b : UInt8} (hb : IsPlainByte b) (r : List UInt8) :
    unescape? (b :: r) = (unescape? r).map (b :: ·) := by
  rw [unescape?.eq_def]
  cases r with
  | nil => exact if_neg hb.1
  | cons c r =>
    dsimp only
    rw [if_neg hb.1, if_neg hb.2]

theorem unescape?_append {bs : List UInt8} (hbs : ∀ b ∈ bs, IsPlainByte b) (r : List UInt8) :
    unescape? (bs ++ r) = (unescape? r).map (bs ++ ·) := by
  induction bs with
  | nil => simp
  | cons b bs ih =>
    obtain ⟨hb, hbs⟩ := List.forall_mem_cons.mp hbs
    rw [List.cons_append, unescape?_plain hb, ih hbs, Option.map_map]
    rfl

/-! ### Texts -/

/-- **No byte of a character is taken for a quote or a backslash** that is not one. -/
theorem isPlainByte_of_mem {c : Char} (hquote : c ≠ '\'') (hslash : c ≠ '\\') {b : UInt8}
    (hb : b ∈ String.utf8EncodeChar c) : IsPlainByte b := by
  have hne {d : Char} (hd : d.toNat < 0x80) (hc : c ≠ d) : b.toNat ≠ d.toNat := by
    -- a byte of a longer character is 128 or more
    intro h
    rcases toNat_of_mem_utf8EncodeChar hb with hbc | hbig
    · exact hc (Char.toNat_inj.mp (hbc.symm.trans h))
    · omega
  constructor
  · rintro rfl
    exact hne (by decide) hquote rfl
  · rintro rfl
    exact hne (by decide) hslash rfl

section Escapes

variable {style : LiteralStyle} (hb : style.backslashEscapes = true)

include hb

theorem unescape?_escapeChar (c : Char) (r : List UInt8) :
    unescape? (encode (style.escapeChar c) ++ r) =
      (unescape? r).map (String.utf8EncodeChar c ++ ·) := by
  unfold escapeChar
  split
  next hquote =>
    subst hquote
    exact unescape?_quote r
  next hquote =>
  split
  next hslash =>
    obtain ⟨rfl, -⟩ := hslash
    exact unescape?_slash r
  next hslash =>
    rw [encode, List.flatMap_singleton]
    exact unescape?_append (fun _ => isPlainByte_of_mem hquote fun h => hslash ⟨h, hb⟩) r

theorem unescape?_escapeChars (s : List Char) :
    unescape? (encode (style.escapeChars s) ++ [0x27]) = some (encode s) := by
  unfold escapeChars
  induction s with
  | nil => rfl
  | cons c s ih =>
    rw [List.flatMap_cons, encode_append, List.append_assoc, unescape?_escapeChar hb, ih,
      encode_cons, Option.map_some]

end Escapes

/-! ### Bytes one by one -/

/-- A hexadecimal digit is one byte, which has the same digit. -/
theorem utf8EncodeChar_hexDigit {n : Nat} (hn : n < 16) :
    String.utf8EncodeChar (hexDigit true n) = [UInt8.ofNat (hexDigit true n).toNat] ∧
      Char.ofNat (UInt8.ofNat (hexDigit true n).toNat).toNat = hexDigit true n := by
  revert n
  decide

theorem hexPair?_hexByte (b : UInt8) :
    hexPair? (UInt8.ofNat (hexDigit true (b.toNat / 16)).toNat)
      (UInt8.ofNat (hexDigit true (b.toNat % 16)).toNat) = some b := by
  have hb := b.toNat_lt
  have hvalue := hexDigitsValue?_hexByte b
  rw [hexByte] at hvalue
  rw [hexPair?, (utf8EncodeChar_hexDigit (by omega)).2, (utf8EncodeChar_hexDigit (by omega)).2,
    hvalue, Option.map_some, UInt8.ofNat_toNat]

theorem unescape?_escapeByte (b : UInt8) (r : List UInt8) :
    unescape? (encode (escapeByte b) ++ r) = (unescape? r).map (b :: ·) := by
  unfold escapeByte
  split
  next hquote =>
    subst hquote
    exact unescape?_quote r
  next hquote =>
  split
  next hslash =>
    subst hslash
    exact unescape?_slash r
  next hslash =>
  split
  next hprint =>
    have hle : b.toNat ≤ 0x7E := UInt8.le_iff_toNat_le.mp hprint.2
    have hone : encode [Char.ofNat b.toNat] = [b] := by
      rw [encode, List.flatMap_singleton, utf8EncodeChar_toNat (by omega)]
    rw [hone, List.singleton_append, unescape?_plain ⟨hquote, hslash⟩]
  next =>
    have hb := b.toNat_lt
    have hdigits : encode ('\\' :: 'x' :: hexByte true b) =
        [0x5C, 0x78, UInt8.ofNat (hexDigit true (b.toNat / 16)).toNat,
          UInt8.ofNat (hexDigit true (b.toNat % 16)).toNat] := by
      rw [hexByte, encode_cons, encode_cons, encode_cons, encode_cons,
        (utf8EncodeChar_hexDigit (by omega)).1, (utf8EncodeChar_hexDigit (by omega)).1]
      rfl
    rw [hdigits]
    exact unescape?_hex (hexPair?_hexByte b) r

theorem unescape?_escapeBytes (data : List UInt8) :
    unescape? (encode (data.flatMap escapeByte) ++ [0x27]) = some data := by
  induction data with
  | nil => rfl
  | cons b data ih =>
    rw [List.flatMap_cons, encode_append, List.append_assoc, unescape?_escapeByte, ih,
      Option.map_some]

/-! ### Both ways -/

theorem unquote?_quotes (s : List Char) :
    unquote? (encode ('\'' :: s ++ ['\''])) = unescape? (encode s ++ [0x27]) := by
  rw [encode_append, encode_cons]
  rfl

/-- **Quoted bytes are read back**, whether or not they are a text. -/
theorem unquote?_quoteByteChars {style : LiteralStyle} (hb : style.backslashEscapes = true)
    (data : List UInt8) : unquote? (encode (style.quoteByteChars data)) = some data := by
  unfold quoteByteChars
  split
  next s hs =>
    rw [quoteChars, unquote?_quotes, unescape?_escapeChars hb, decode?_eq_some_iff.mp hs]
  next =>
    rw [if_pos hb, unquote?_quotes, unescape?_escapeBytes]

end LiteralStyle

namespace Cell

open LiteralStyle (unquote?)
open Text.Utf8 (encode)

/-- Bytes are neither a number nor a truth value, so no category makes a difference. -/
theorem literal_bytes_eq (category : Category) (style : LiteralStyle) (data : List UInt8) :
    (bytes data).literal category style = style.quoteBytes data := by
  rw [literal, scalar]
  · split
    · rfl
    · split <;> rfl
  · simp
  · simp

/-- **Bytes in a literal are kept.** Under backslash escapes the literal of bytes is one
quoted text, in a column of any category; its reader finds exactly these bytes, so other
bytes have another literal. -/
theorem literal_bytes {style : LiteralStyle} (hb : style.backslashEscapes = true)
    (category : Category) (data : List UInt8) :
    (∃ body, ((bytes data).literal category style).toList = '\'' :: body ∧
        style.rule.Closes body) ∧
      unquote? (encode ((bytes data).literal category style).toList) = some data ∧
      ∀ (category' : Category) (data' : List UInt8),
        (bytes data').literal category' style = (bytes data).literal category style →
          data' = data := by
  have hread (category : Category) (data : List UInt8) :
      unquote? (encode ((bytes data).literal category style).toList) = some data := by
    rw [literal_bytes_eq, LiteralStyle.quoteBytes, String.toList_ofList,
      LiteralStyle.unquote?_quoteByteChars hb]
  refine ⟨?_, hread category data, fun category' data' h => ?_⟩
  · obtain ⟨written, hwritten, hcloses⟩ := style.closes_quoteByteChars data
    refine ⟨written ++ ['\''], ?_, hcloses⟩
    rw [literal_bytes_eq, LiteralStyle.quoteBytes, String.toList_ofList, hwritten]
  · have h' := hread category' data'
    rw [h, hread category data] at h'
    exact (Option.some.inj h').symm

/-- A backslash before what looks like a byte in digits, with and without a byte that is
no text. -/
theorem literal_bytes_of_slash :
    unquote? (encode ((bytes [0x5C, 0x78, 0x32, 0x37]).literal .binary
        ClickHouse.literals).toList) = some [0x5C, 0x78, 0x32, 0x37] ∧
      unquote? (encode ((bytes [0x5C, 0x78, 0x32, 0x37, 0xC3]).literal .int4
        ClickHouse.literals).toList) = some [0x5C, 0x78, 0x32, 0x37, 0xC3] :=
  ⟨(@literal_bytes ClickHouse.literals rfl .binary [0x5C, 0x78, 0x32, 0x37]).2.1,
    (@literal_bytes ClickHouse.literals rfl .int4 [0x5C, 0x78, 0x32, 0x37, 0xC3]).2.1⟩

end Cell

end SqlDialect
