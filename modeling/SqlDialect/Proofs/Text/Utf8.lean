import SqlDialect.Text.Utf8
/-!
# Well-formed bytes

A character takes one to four bytes: the first says how many there are, and each byte after
it carries six bits (`Encodes`). The writer writes exactly these (`Encodes.eq`), and the
scanner yields a character where, and only where, its bytes stand (`Encodes.scanFrom`,
`exists_encodes_of_scanFrom`).

So text survives being written and scanned (`decodeLossy_encode`), and the bytes of a
well-formed sequence survive being scanned and written (`decode?_eq_some_iff`).
-/

namespace SqlDialect.Text.Utf8

/-! ### The bytes of a character -/

/-- A character and its bytes. The first bytes leave out what is written shorter, surrogates
and everything beyond the last character. -/
inductive Encodes : Char → List UInt8 → Prop
  | one {n : Nat} : n < 0x80 → Encodes (Char.ofNat n) [UInt8.ofNat n]
  | two {x y : Nat} : 2 ≤ x → x < 0x20 → y < 0x40 →
      Encodes (Char.ofNat (x * 64 + y)) [UInt8.ofNat (0xC0 + x), UInt8.ofNat (0x80 + y)]
  | three {x y z : Nat} : x < 0x10 → y < 0x40 → z < 0x40 → (x = 0 → 0x20 ≤ y) →
      (x = 0xD → y < 0x20) →
      Encodes (Char.ofNat ((x * 64 + y) * 64 + z))
        [UInt8.ofNat (0xE0 + x), UInt8.ofNat (0x80 + y), UInt8.ofNat (0x80 + z)]
  | four {x y z w : Nat} : x < 5 → y < 0x40 → z < 0x40 → w < 0x40 → (x = 0 → 0x10 ≤ y) →
      (x = 4 → y < 0x10) →
      Encodes (Char.ofNat (((x * 64 + y) * 64 + z) * 64 + w))
        [UInt8.ofNat (0xF0 + x), UInt8.ofNat (0x80 + y), UInt8.ofNat (0x80 + z),
          UInt8.ofNat (0x80 + w)]

theorem toNat_ofNat_byte {n : Nat} (h : n < 256) : (UInt8.ofNat n).toNat = n :=
  UInt8.toNat_ofNat_of_lt h

theorem toNat_ofNat_of_valid {n : Nat} (h : n < 0xD800 ∨ 0xDFFF < n ∧ n < 0x110000) :
    (Char.ofNat n).val.toNat = n := by
  have hvalid : n.isValidChar := h
  rw [Char.ofNat, dif_pos hvalid]
  rfl

theorem Encodes.eq {c : Char} {bs : List UInt8} (h : Encodes c bs) :
    bs = String.utf8EncodeChar c := by
  unfold String.utf8EncodeChar
  cases h with
  | one hn =>
    rw [toNat_ofNat_of_valid (by omega)]
    dsimp only
    rw [if_pos (by omega)]
  | @two x y hx hx' hy =>
    rw [toNat_ofNat_of_valid (by omega)]
    dsimp only
    rw [if_neg (by omega), if_pos (by omega)]
    have h1 : (x * 64 + y) / 64 % 32 + 192 = 0xC0 + x := by omega
    have h2 : (x * 64 + y) % 64 + 128 = 0x80 + y := by omega
    rw [h1, h2]
  | @three x y z hx hy hz hlow hhigh =>
    rw [toNat_ofNat_of_valid (by omega)]
    dsimp only
    rw [if_neg (by omega), if_neg (by omega), if_pos (by omega)]
    have h1 : ((x * 64 + y) * 64 + z) / 4096 % 16 + 224 = 0xE0 + x := by omega
    have h2 : ((x * 64 + y) * 64 + z) / 64 % 64 + 128 = 0x80 + y := by omega
    have h3 : ((x * 64 + y) * 64 + z) % 64 + 128 = 0x80 + z := by omega
    rw [h1, h2, h3]
  | @four x y z w hx hy hz hw hlow hhigh =>
    rw [toNat_ofNat_of_valid (by omega)]
    dsimp only
    rw [if_neg (by omega), if_neg (by omega), if_neg (by omega)]
    have h1 : (((x * 64 + y) * 64 + z) * 64 + w) / 262144 % 8 + 240 = 0xF0 + x := by omega
    have h2 : (((x * 64 + y) * 64 + z) * 64 + w) / 4096 % 64 + 128 = 0x80 + y := by omega
    have h3 : (((x * 64 + y) * 64 + z) * 64 + w) / 64 % 64 + 128 = 0x80 + z := by omega
    have h4 : (((x * 64 + y) * 64 + z) * 64 + w) % 64 + 128 = 0x80 + w := by omega
    rw [h1, h2, h3, h4]

theorem exists_encodes (c : Char) : ∃ bs, Encodes c bs := by
  have hvalid : c.val.toNat < 0xD800 ∨ 0xDFFF < c.val.toNat ∧ c.val.toNat < 0x110000 := c.valid
  have hc : Char.ofNat c.val.toNat = c := Char.ofNat_toNat c
  generalize c.val.toNat = n at hvalid hc
  subst hc
  by_cases h1 : n < 0x80
  · exact ⟨_, .one h1⟩
  by_cases h2 : n < 0x800
  · have hn : n = n / 64 * 64 + n % 64 := by omega
    rw [hn]
    exact ⟨_, .two (by omega) (by omega) (by omega)⟩
  by_cases h3 : n < 0x10000
  · have hn : n = (n / 4096 * 64 + n / 64 % 64) * 64 + n % 64 := by omega
    rw [hn]
    exact ⟨_, .three (by omega) (by omega) (by omega) (by omega) (by omega)⟩
  · have hn : n = ((n / 262144 * 64 + n / 4096 % 64) * 64 + n / 64 % 64) * 64 + n % 64 := by omega
    rw [hn]
    exact ⟨_, .four (by omega) (by omega) (by omega) (by omega) (by omega) (by omega)⟩

theorem encodes_utf8EncodeChar (c : Char) : Encodes c (String.utf8EncodeChar c) := by
  obtain ⟨bs, h⟩ := exists_encodes c
  rwa [← h.eq]

/-- A byte below 128 is a character, and is all there is of it. -/
theorem utf8EncodeChar_toNat {b : UInt8} (hb : b.toNat < 0x80) :
    String.utf8EncodeChar (Char.ofNat b.toNat) = [b] := by
  rw [← (Encodes.one hb).eq, UInt8.ofNat_toNat]

/-- A byte below 128 is in no character but this one. -/
theorem toNat_of_mem_utf8EncodeChar {c : Char} {b : UInt8} (hb : b ∈ String.utf8EncodeChar c) :
    b.toNat = c.toNat ∨ 0x80 ≤ b.toNat := by
  have h := encodes_utf8EncodeChar c
  generalize String.utf8EncodeChar c = bs at h hb
  have hbyte {n : Nat} (hlow : 0x80 ≤ n) (hhigh : n < 256) : 0x80 ≤ (UInt8.ofNat n).toNat := by
    rwa [toNat_ofNat_byte hhigh]
  cases h with
  | @one n hn =>
    obtain rfl := List.mem_singleton.mp hb
    left
    rw [toNat_ofNat_byte (by omega)]
    exact (toNat_ofNat_of_valid (by omega)).symm
  | @two x y hx hx' hy =>
    right
    simp only [List.mem_cons, List.not_mem_nil, or_false] at hb
    rcases hb with rfl | rfl
    · exact hbyte (by omega) (by omega)
    · exact hbyte (by omega) (by omega)
  | @three x y z hx hy hz hlow hhigh =>
    right
    simp only [List.mem_cons, List.not_mem_nil, or_false] at hb
    rcases hb with rfl | rfl | rfl
    · exact hbyte (by omega) (by omega)
    · exact hbyte (by omega) (by omega)
    · exact hbyte (by omega) (by omega)
  | @four x y z w hx hy hz hw hlow hhigh =>
    right
    simp only [List.mem_cons, List.not_mem_nil, or_false] at hb
    rcases hb with rfl | rfl | rfl | rfl
    · exact hbyte (by omega) (by omega)
    · exact hbyte (by omega) (by omega)
    · exact hbyte (by omega) (by omega)
    · exact hbyte (by omega) (by omega)

/-! ### One step of the scanner -/

/-- What a first byte begins, with the bounds of the byte after it. -/
theorem first_eq (b : UInt8) :
    first b =
      if b.toNat < 0x80 then ([some (Char.ofNat b.toNat)], none)
      else if 0xC2 ≤ b.toNat ∧ b.toNat ≤ 0xDF then ([], some ⟨1, 0x80, 0xBF, b.toNat % 32⟩)
      else if 0xE0 ≤ b.toNat ∧ b.toNat ≤ 0xEF then
        ([], some ⟨2, if b.toNat = 0xE0 then 0xA0 else 0x80, if b.toNat = 0xED then 0x9F else 0xBF,
          b.toNat % 16⟩)
      else if 0xF0 ≤ b.toNat ∧ b.toNat ≤ 0xF4 then
        ([], some ⟨3, if b.toNat = 0xF0 then 0x90 else 0x80, if b.toNat = 0xF4 then 0x8F else 0xBF,
          b.toNat % 8⟩)
      else ([none], none) := by
  unfold first
  simp only [UInt8.lt_iff_toNat_lt, UInt8.le_iff_toNat_le, Bool.and_eq_true, decide_eq_true_eq,
    beq_iff_eq, ← UInt8.toNat_inj, UInt8.reduceToNat]
  generalize b.toNat = n
  grind

/-- A byte within the bounds goes on with the begun character; any other one ends it and is
looked at again. -/
theorem scanFrom_some_cons (p : Pending) (b : UInt8) (r : List UInt8) :
    scanFrom (some p) (b :: r) =
      if p.low.toNat ≤ b.toNat ∧ b.toNat ≤ p.high.toNat then
        if p.left = 1 then some (Char.ofNat (p.value * 64 + b.toNat % 64)) :: scanFrom none r
        else scanFrom (some ⟨p.left - 1, 0x80, 0xBF, p.value * 64 + b.toNat % 64⟩) r
      else none :: scanFrom none (b :: r) := by
  simp only [scanFrom, Pending.next, UInt8.le_iff_toNat_le, Bool.and_eq_true, decide_eq_true_eq]
  split
  · split <;> rfl
  · rfl

/-- A byte of six payload bits within the bounds goes on with the begun character. -/
theorem scanFrom_some_payload {p : Pending} {y : Nat} (hy : y < 0x40)
    (hlow : p.low.toNat ≤ 0x80 + y) (hhigh : 0x80 + y ≤ p.high.toNat) (r : List UInt8) :
    scanFrom (some p) (UInt8.ofNat (0x80 + y) :: r) =
      if p.left = 1 then some (Char.ofNat (p.value * 64 + y)) :: scanFrom none r
      else scanFrom (some ⟨p.left - 1, 0x80, 0xBF, p.value * 64 + y⟩) r := by
  have hbits : (0x80 + y) % 64 = y := by omega
  rw [scanFrom_some_cons, toNat_ofNat_byte (by omega), if_pos ⟨hlow, hhigh⟩, hbits]

/-- **The bytes of a character are scanned as that character.** -/
theorem Encodes.scanFrom {c : Char} {bs : List UInt8} (h : Encodes c bs) (r : List UInt8) :
    scanFrom none (bs ++ r) = some c :: scanFrom none r := by
  cases h with
  | @one n hn =>
    rw [List.cons_append, Utf8.scanFrom, first_eq, toNat_ofNat_byte (by omega), if_pos hn]
    rfl
  | @two x y hx hx' hy =>
    have hbits : (0xC0 + x) % 32 = x := by omega
    rw [List.cons_append, List.cons_append, Utf8.scanFrom, first_eq, toNat_ofNat_byte (by omega),
      if_neg (by omega), if_pos (by omega), hbits]
    exact scanFrom_some_payload hy (by simp) (by simp; omega) r
  | @three x y z hx hy hz hlow hhigh =>
    have hbits : (0xE0 + x) % 16 = x := by omega
    simp only [List.cons_append, List.nil_append]
    rw [Utf8.scanFrom, first_eq, toNat_ofNat_byte (by omega),
      if_neg (by omega), if_neg (by omega), if_pos (by omega), hbits, List.nil_append]
    rw [scanFrom_some_payload hy (by dsimp only; split <;> simp; omega)
      (by dsimp only; split <;> simp <;> omega), if_neg (by simp)]
    exact scanFrom_some_payload hz (by simp) (by simp; omega) r
  | @four x y z w hx hy hz hw hlow hhigh =>
    have hbits : (0xF0 + x) % 8 = x := by omega
    simp only [List.cons_append, List.nil_append]
    rw [Utf8.scanFrom, first_eq, toNat_ofNat_byte (by omega),
      if_neg (by omega), if_neg (by omega), if_neg (by omega), if_pos (by omega), hbits,
      List.nil_append]
    rw [scanFrom_some_payload hy (by dsimp only; split <;> simp; omega)
      (by dsimp only; split <;> simp <;> omega), if_neg (by simp)]
    rw [scanFrom_some_payload hz (by simp) (by simp; omega), if_neg (by simp)]
    exact scanFrom_some_payload hw (by simp) (by simp; omega) r

/-! ### What was scanned -/

/-- A begun character that is read in the end goes on with a byte of six payload bits. -/
theorem exists_payload_of_scanFrom_some {p : Pending} {bs : List UInt8} {c : Char}
    {out : List (Option Char)} (hlow : 0x80 ≤ p.low.toNat) (hhigh : p.high.toNat ≤ 0xBF)
    (h : scanFrom (some p) bs = some c :: out) :
    ∃ y rest, bs = UInt8.ofNat (0x80 + y) :: rest ∧ y < 0x40 ∧
      p.low.toNat ≤ 0x80 + y ∧ 0x80 + y ≤ p.high.toNat ∧
      (if p.left = 1 then some (Char.ofNat (p.value * 64 + y)) :: scanFrom none rest
        else scanFrom (some ⟨p.left - 1, 0x80, 0xBF, p.value * 64 + y⟩) rest) = some c :: out := by
  cases bs with
  | nil => simp [scanFrom] at h
  | cons b rest =>
    by_cases hb : p.low.toNat ≤ b.toNat ∧ b.toNat ≤ p.high.toNat
    · have hsum : 0x80 + (b.toNat - 0x80) = b.toNat := by omega
      have hbits : b.toNat % 64 = b.toNat - 0x80 := by omega
      rw [scanFrom_some_cons, if_pos hb, hbits] at h
      exact ⟨b.toNat - 0x80, rest, by rw [hsum, UInt8.ofNat_toNat], by omega, by omega, by omega, h⟩
    · rw [scanFrom_some_cons, if_neg hb] at h
      simp at h

/-- **A scanned character stands there with its bytes.** -/
theorem exists_encodes_of_scanFrom {bs : List UInt8} {c : Char} {out : List (Option Char)}
    (h : scanFrom none bs = some c :: out) :
    ∃ head rest, bs = head ++ rest ∧ Encodes c head ∧ out = scanFrom none rest := by
  cases bs with
  | nil => simp [scanFrom] at h
  | cons b r =>
    have hb : UInt8.ofNat b.toNat = b := UInt8.ofNat_toNat
    -- The first byte tells how many follow; `h` gives them up one after the other.
    rw [scanFrom, first_eq] at h
    generalize b.toNat = n at h hb
    subst hb
    split at h
    next hn =>
      obtain ⟨rfl, rfl⟩ : Char.ofNat n = c ∧ scanFrom none r = out := by simpa using h
      exact ⟨[UInt8.ofNat n], r, rfl, .one hn, rfl⟩
    next =>
    split at h
    next hn =>
      obtain ⟨x, rfl⟩ : ∃ x, n = 0xC0 + x := ⟨n - 0xC0, by omega⟩
      have hbits : (0xC0 + x) % 32 = x := by omega
      rw [List.nil_append, hbits] at h
      obtain ⟨y, rest, rfl, hy, -, -, h⟩ :=
        exists_payload_of_scanFrom_some (by simp) (by simp) h
      obtain ⟨rfl, rfl⟩ : Char.ofNat (x * 64 + y) = c ∧ scanFrom none rest = out := by
        simpa using h
      exact ⟨_, rest, rfl, .two (by omega) (by omega) hy, rfl⟩
    next =>
    split at h
    next hn =>
      obtain ⟨x, rfl⟩ : ∃ x, n = 0xE0 + x := ⟨n - 0xE0, by omega⟩
      have hbits : (0xE0 + x) % 16 = x := by omega
      rw [List.nil_append, hbits] at h
      obtain ⟨y, rest, rfl, hy, hlow, hhigh, h⟩ := exists_payload_of_scanFrom_some
        (by dsimp only; split <;> simp) (by dsimp only; split <;> simp) h
      obtain ⟨z, rest, rfl, hz, -, -, h⟩ :=
        exists_payload_of_scanFrom_some (by simp) (by simp) h
      obtain ⟨rfl, rfl⟩ : Char.ofNat ((x * 64 + y) * 64 + z) = c ∧ scanFrom none rest = out := by
        simpa using h
      refine ⟨_, rest, rfl, .three (by omega) hy hz ?_ ?_, rfl⟩
      · rintro rfl
        simp at hlow
        omega
      · rintro rfl
        simp at hhigh
        omega
    next =>
    split at h
    next hn =>
      obtain ⟨x, rfl⟩ : ∃ x, n = 0xF0 + x := ⟨n - 0xF0, by omega⟩
      have hbits : (0xF0 + x) % 8 = x := by omega
      rw [List.nil_append, hbits] at h
      obtain ⟨y, rest, rfl, hy, hlow, hhigh, h⟩ := exists_payload_of_scanFrom_some
        (by dsimp only; split <;> simp) (by dsimp only; split <;> simp) h
      obtain ⟨z, rest, rfl, hz, -, -, h⟩ :=
        exists_payload_of_scanFrom_some (by simp) (by simp) h
      obtain ⟨w, rest, rfl, hw, -, -, h⟩ :=
        exists_payload_of_scanFrom_some (by simp) (by simp) h
      obtain ⟨rfl, rfl⟩ : Char.ofNat (((x * 64 + y) * 64 + z) * 64 + w) = c ∧
          scanFrom none rest = out := by
        simpa using h
      refine ⟨_, rest, rfl, .four (by omega) hy hz hw ?_ ?_, rfl⟩
      · rintro rfl
        simp at hlow
        omega
      · rintro rfl
        simp at hhigh
        omega
    next => simp at h

/-- A begun character yields something, be it that it is ill-formed. -/
theorem scanFrom_some_ne_nil (p : Pending) (bs : List UInt8) : scanFrom (some p) bs ≠ [] := by
  induction bs generalizing p with
  | nil => simp [scanFrom]
  | cons b r ih =>
    rw [scanFrom_some_cons]
    split
    · split
      · simp
      · exact ih _
    · simp

theorem eq_nil_of_scanFrom {bs : List UInt8} (h : scanFrom none bs = []) : bs = [] := by
  cases bs with
  | nil => rfl
  | cons b r =>
    obtain ⟨hfirst, hrest⟩ := List.append_eq_nil_iff.mp h
    rcases hp : (first b).2 with _ | p
    · rw [first_eq] at hfirst hp
      grind
    · rw [hp] at hrest
      exact absurd hrest (scanFrom_some_ne_nil p r)

/-! ### Whole texts -/

theorem encode_cons (c : Char) (s : List Char) :
    encode (c :: s) = String.utf8EncodeChar c ++ encode s := by
  simp [encode]

theorem encode_append (s t : List Char) : encode (s ++ t) = encode s ++ encode t :=
  List.flatMap_append

theorem scan_encode (s : List Char) : scan (encode s) = s.map some := by
  unfold scan
  induction s with
  | nil => rfl
  | cons c s ih =>
    rw [encode_cons, (encodes_utf8EncodeChar c).scanFrom, ih, List.map_cons]

theorem decodeLossy_encode (s : List Char) : decodeLossy (encode s) = s := by
  simp [decodeLossy, scan_encode, Function.comp_def]

theorem encode_injective {s t : List Char} (h : encode s = encode t) : s = t := by
  rw [← decodeLossy_encode s, h, decodeLossy_encode]

theorem eq_encode_of_scan {bs : List UInt8} {s : List Char} (h : scan bs = s.map some) :
    bs = encode s := by
  unfold scan at h
  induction s generalizing bs with
  | nil => exact eq_nil_of_scanFrom h
  | cons c s ih =>
    obtain ⟨head, rest, rfl, hhead, hrest⟩ := exists_encodes_of_scanFrom h
    rw [ih hrest.symm, hhead.eq, encode_cons]

theorem mapM_id_eq_some_iff {α : Type} {os : List (Option α)} {as : List α} :
    os.mapM id = some as ↔ os = as.map some := by
  induction os generalizing as with
  | nil => cases as <;> simp
  | cons o os ih =>
    cases o with
    | none => cases as <;> simp [List.mapM_cons]
    | some a =>
      cases as with
      | nil => simp [List.mapM_cons, Option.bind_eq_some_iff]
      | cons b as => simp [List.mapM_cons, Option.bind_eq_some_iff, ih, and_comm (b := a = b)]

/-- **The bytes that have a text are those of that text.** -/
theorem decode?_eq_some_iff {bs : List UInt8} {s : List Char} :
    decode? bs = some s ↔ bs = encode s := by
  unfold decode?
  rw [mapM_id_eq_some_iff]
  constructor
  · exact eq_encode_of_scan
  · rintro rfl
    exact scan_encode s

end SqlDialect.Text.Utf8
