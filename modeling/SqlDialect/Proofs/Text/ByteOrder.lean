import Mathlib.Data.List.Lex
import SqlDialect.Proofs.Text.Utf8
/-!
# The order of bytes

Texts come in the same order by their characters and by their bytes (`encode_lex_iff`). The
bytes of a character decide before they end: of two characters with equally many bytes the
first different ones are those of the first different six bits, and a character with more
bytes has a greater first one (`Encodes.lex`). So whatever follows two different characters
makes no difference, neither for the characters nor for the bytes.
-/

namespace SqlDialect.Text.Utf8

theorem cons_lex_ofNat_iff {a b : Nat} (ha : a < 256) (hb : b < 256) {s t : List UInt8} :
    List.Lex (· < ·) (UInt8.ofNat a :: s) (UInt8.ofNat b :: t) ↔
      a < b ∨ a = b ∧ List.Lex (· < ·) s t := by
  rw [List.cons_lex_cons_iff, UInt8.lt_iff_toNat_lt, ← UInt8.toNat_inj, toNat_ofNat_byte ha,
    toNat_ofNat_byte hb]

/-- **The lesser character has the lesser bytes**, whatever stands behind them. -/
theorem Encodes.lex {c d : Char} {bs ds : List UInt8} (hc : Encodes c bs) (hd : Encodes d ds)
    (hlt : c.val.toNat < d.val.toNat) (s t : List UInt8) :
    List.Lex (· < ·) (bs ++ s) (ds ++ t) := by
  -- Equally many bytes: digit by digit. More in `ds`: the first bytes decide. Fewer: not less.
  cases hc with
  | one hn =>
    rw [toNat_ofNat_of_valid (by omega)] at hlt
    cases hd with
    | one hm =>
      rw [toNat_ofNat_of_valid (by omega)] at hlt
      exact (cons_lex_ofNat_iff (by omega) (by omega)).mpr (Or.inl hlt)
    | _ => exact (cons_lex_ofNat_iff (by omega) (by omega)).mpr (by omega)
  | two hx hx' hy =>
    rw [toNat_ofNat_of_valid (by omega)] at hlt
    cases hd with
    | one hm =>
      rw [toNat_ofNat_of_valid (by omega)] at hlt
      omega
    | two =>
      rw [toNat_ofNat_of_valid (by omega)] at hlt
      simp (disch := omega) only [List.cons_append, List.nil_append, cons_lex_ofNat_iff]
      omega
    | _ => exact (cons_lex_ofNat_iff (by omega) (by omega)).mpr (by omega)
  | three hx hy hz hlow hhigh =>
    rw [toNat_ofNat_of_valid (by omega)] at hlt
    cases hd with
    | three =>
      rw [toNat_ofNat_of_valid (by omega)] at hlt
      simp (disch := omega) only [List.cons_append, List.nil_append, cons_lex_ofNat_iff]
      omega
    | four => exact (cons_lex_ofNat_iff (by omega) (by omega)).mpr (by omega)
    | _ =>
      rw [toNat_ofNat_of_valid (by omega)] at hlt
      omega
  | four hx hy hz hw hlow hhigh =>
    rw [toNat_ofNat_of_valid (by omega)] at hlt
    cases hd with
    | four =>
      rw [toNat_ofNat_of_valid (by omega)] at hlt
      simp (disch := omega) only [List.cons_append, List.nil_append, cons_lex_ofNat_iff]
      omega
    | _ =>
      rw [toNat_ofNat_of_valid (by omega)] at hlt
      omega

theorem encode_lex {s t : List Char} (h : List.Lex (· < ·) s t) :
    List.Lex (· < ·) (encode s) (encode t) := by
  induction h with
  | @nil c t =>
    obtain ⟨b, bs, hc⟩ := List.exists_cons_of_ne_nil (String.utf8EncodeChar_ne_nil (c := c))
    rw [encode_cons, hc]
    exact .nil
  | @rel c s d t hlt =>
    rw [encode_cons, encode_cons]
    exact (encodes_utf8EncodeChar c).lex (encodes_utf8EncodeChar d) hlt _ _
  | @cons c s t _ ih =>
    rw [encode_cons, encode_cons]
    exact ih.append_left (· < ·) _

/-- **Texts are ordered by their bytes** as they are by their characters. -/
theorem encode_lex_iff {s t : List Char} :
    List.Lex (· < ·) (encode s) (encode t) ↔ List.Lex (· < ·) s t := by
  refine ⟨fun h => ?_, encode_lex⟩
  rcases Std.lt_trichotomy s t with hlt | heq | hgt
  · exact hlt
  · subst heq
    exact absurd h (List.lt_irrefl (encode s))
  · exact absurd h (List.lt_asymm (encode_lex hgt))

/-- The bytes of the second text do not come before those of the first. -/
def InOrder (a b : String) : Prop := ¬List.Lex (· < ·) (encode b.toList) (encode a.toList)

theorem inOrder_iff {a b : String} : InOrder a b ↔ a ≤ b := by
  rw [InOrder, encode_lex_iff, ← String.not_lt, String.lt_iff]
  rfl

/-- The bytes of the first text come before those of the second. -/
def Before (a b : String) : Prop := List.Lex (· < ·) (encode a.toList) (encode b.toList)

theorem before_iff {a b : String} : Before a b ↔ a < b := by
  rw [Before, encode_lex_iff, String.lt_iff]
  rfl

end SqlDialect.Text.Utf8
