import SqlDialect.Proofs.Json.Number
/-!
# JSON that reads back

A value is `Readable` if its numbers read back, no object in it repeats a name, and arrays and
objects nest no deeper than the reader goes. Its compact text is then read as that value
(`Readable.read?_compact`), by induction on how the value is built: the text of each value
begins with a character that is no gap, and whatever does not go on with a number may follow it
(`ReadBy`). Items and members between brackets are lists with commas, read in the same way
(`read_intercalate`).

A compact text holds no control character (`Readable.printable`), so it stands on one line.
-/

namespace SqlDialect.Json

open Text (IsNumeralChar hexDigit hexDigitsValue?)

/-! ### Strings -/

theorem stringBody_plain {c : Char} (hquote : c ≠ '"') (hslash : c ≠ '\\') (hc : ¬c.toNat < 0x20)
    (r : List Char) :
    stringBody (c :: r) = (stringBody r).map fun (s, rest) => (c :: s, rest) := by
  rw [stringBody, if_neg hc]
  · exact hquote
  · exact fun _ _ _ _ _ h => absurd h hslash
  · exact fun h => absurd h hslash
  · exact fun _ _ h => absurd h hslash

theorem hexDigitsValue?_control :
    ∀ n < 0x20, hexDigitsValue? ['0', '0', hexDigit false (n / 16), hexDigit false (n % 16)] =
      some n := by
  decide

theorem stringBody_control {c : Char} (hc : c.toNat < 0x20) (r : List Char) :
    stringBody ('\\' :: 'u' :: '0' :: '0' :: hexDigit false (c.toNat / 16) ::
        hexDigit false (c.toNat % 16) :: r) =
      (stringBody r).map fun (s, rest) => (c :: s, rest) := by
  rw [stringBody, hexDigitsValue?_control _ hc]
  dsimp only
  rw [if_pos (by simp; omega), Char.ofNat_toNat]

theorem stringBody_escapeChar (c : Char) (r : List Char) :
    stringBody (escapeChar c ++ r) = (stringBody r).map fun (s, rest) => (c :: s, rest) := by
  unfold escapeChar
  split
  · rfl
  · rfl
  · rfl
  · rfl
  · rfl
  · rfl
  · rfl
  · rename_i hquote hslash _ _ _ _ _
    split
    · rename_i hc
      exact stringBody_control hc r
    · rename_i hc
      exact stringBody_plain hquote hslash hc r

theorem stringBody_escape (s r : List Char) :
    stringBody (s.flatMap escapeChar ++ '"' :: r) = some (s, r) := by
  induction s with
  | nil => rw [List.flatMap_nil, List.nil_append, stringBody]
  | cons c s ih =>
    rw [List.flatMap_cons, List.append_assoc, stringBody_escapeChar, ih, Option.map_some]

/-! ### Lists between brackets -/

theorem compactItems_eq_map (items : List Json) : compactItems items = items.map compact := by
  induction items with
  | nil => rfl
  | cons j items ih => rw [compactItems, ih, List.map_cons]

theorem compactMembers_eq_map (ms : List (String × Json)) :
    compactMembers ms = ms.map fun m => quote m.1 ++ ":" ++ compact m.2 := by
  induction ms with
  | nil => rfl
  | cons m ms ih =>
    obtain ⟨n, j⟩ := m
    rw [compactMembers, ih, List.map_cons]

def chars (j : Json) : List Char := j.compact.toList

def memberChars (m : String × Json) : List Char := quoteChars m.1.toList ++ ':' :: m.2.chars

theorem chars_array (items : List Json) :
    (Json.array items).chars = '[' :: ([','].intercalate (items.map chars) ++ [']']) := by
  have hitems : (compactItems items).map String.toList = items.map chars := by
    rw [compactItems_eq_map, List.map_map]
    rfl
  rw [chars, compact, String.toList_append, String.toList_append, String.toList_intercalate,
    hitems]
  rfl

theorem chars_object (ms : List (String × Json)) :
    (Json.object ms).chars = '\x7b' :: ([','].intercalate (ms.map memberChars) ++ ['\x7d']) := by
  have hmembers : (compactMembers ms).map String.toList = ms.map memberChars := by
    rw [compactMembers_eq_map, List.map_map]
    refine List.map_congr_left fun m _ => ?_
    simp [quote, memberChars, chars]
  rw [chars, compact, String.toList_append, String.toList_append, String.toList_intercalate,
    hmembers]
  rfl

theorem skipGap_cons {c : Char} (hc : isGap c = false) (r : List Char) :
    skipGap (c :: r) = c :: r := by
  rw [skipGap, List.dropWhile_cons, hc]
  rfl

/-- The reader reads the text of a value as that value, unless it goes on with a number; and the
text begins neither with a gap nor with a closing bracket. -/
structure ReadBy (read : Reader) (j : Json) : Prop where
  eq : ∀ {r : List Char}, EndsNumber r → read (j.chars ++ r) = some (j, r)
  head : ∃ c s, j.chars = c :: s ∧ isGap c = false ∧ c ≠ ']'

variable {read : Reader}

theorem ReadBy.skipGap_append {j : Json} (h : ReadBy read j) (r : List Char) :
    skipGap (j.chars ++ r) = j.chars ++ r := by
  obtain ⟨c, s, hs, hc, -⟩ := h.head
  rw [hs, List.cons_append, skipGap_cons hc]

theorem endsNumber_mark {c : Char} (hc : c ∈ [',', ']', '\x7d']) (r : List Char) :
    EndsNumber (c :: r) := by
  refine endsNumber_cons ?_ r
  simp only [List.mem_cons, List.not_mem_nil, or_false] at hc
  rcases hc with rfl | rfl | rfl <;> decide

/-- A reader of a list that takes its items one at a time reads items with commas between them. -/
theorem read_intercalate {α : Type} {list : Nat → List Char → Option (List α × List Char)}
    {text : α → List Char} {closing : Char} {items : List α}
    (last : ∀ a ∈ items, ∀ fuel r, list (fuel + 1) (text a ++ closing :: r) = some ([a], r))
    (more : ∀ a ∈ items, ∀ fuel s, list (fuel + 1) (text a ++ ',' :: s) =
      (list fuel s).bind fun (as, rest) => some (a :: as, rest))
    (hne : items ≠ []) {fuel : Nat} (hfuel : items.length ≤ fuel) (r : List Char) :
    list fuel ([','].intercalate (items.map text) ++ closing :: r) = some (items, r) := by
  induction items generalizing fuel with
  | nil => exact absurd rfl hne
  | cons a items ih =>
    obtain ⟨fuel, rfl⟩ : ∃ n, fuel = n + 1 := ⟨fuel - 1, by simp at hfuel; omega⟩
    cases items with
    | nil =>
      rw [List.map_singleton, List.intercalate_singleton]
      exact last a (List.mem_cons_self ..) fuel r
    | cons b items =>
      have hrest := ih (fun c hc => last c (List.mem_cons_of_mem _ hc))
        (fun c hc => more c (List.mem_cons_of_mem _ hc)) (by simp) (Nat.le_of_succ_le_succ hfuel)
      rw [List.map_cons, List.map_cons, List.intercalate_cons_cons, List.append_assoc,
        List.append_assoc, List.singleton_append, more a (List.mem_cons_self ..), ← List.map_cons,
        hrest]
      rfl

theorem readItems_last {j : Json} (hj : ReadBy read j) (fuel : Nat) (r : List Char) :
    readItems read (fuel + 1) (j.chars ++ ']' :: r) = some ([j], r) := by
  rw [readItems, hj.skipGap_append, hj.eq (endsNumber_mark (by decide) r)]
  rfl

theorem readItems_more {j : Json} (hj : ReadBy read j) (fuel : Nat) (s : List Char) :
    readItems read (fuel + 1) (j.chars ++ ',' :: s) =
      (readItems read fuel s).bind fun (js, rest) => some (j :: js, rest) := by
  rw [readItems, hj.skipGap_append, hj.eq (endsNumber_mark (by decide) s)]
  rfl

theorem memberChars_append (m : String × Json) (r : List Char) :
    memberChars m ++ r =
      '"' :: (m.1.toList.flatMap escapeChar ++ '"' :: ':' :: (m.2.chars ++ r)) := by
  simp [memberChars, quoteChars]

theorem memberChars_ne_nil (m : String × Json) : memberChars m ≠ [] := List.cons_ne_nil _ _

theorem readMembers_last {m : String × Json} (hm : ReadBy read m.2) (fuel : Nat) (r : List Char) :
    readMembers read (fuel + 1) (memberChars m ++ '\x7d' :: r) = some ([m], r) := by
  rw [memberChars_append, readMembers, skipGap_cons (by decide)]
  show (stringBody _).bind _ = _
  rw [stringBody_escape]
  show (read (skipGap _)).bind _ = _
  rw [hm.skipGap_append, hm.eq (endsNumber_mark (by decide) r)]
  show some ([(String.ofList m.1.toList, m.2)], r) = _
  rw [String.ofList_toList]

theorem readMembers_more {m : String × Json} (hm : ReadBy read m.2) (fuel : Nat) (s : List Char) :
    readMembers read (fuel + 1) (memberChars m ++ ',' :: s) =
      (readMembers read fuel s).bind fun (ms, rest) => some (m :: ms, rest) := by
  rw [memberChars_append, readMembers, skipGap_cons (by decide)]
  show (stringBody _).bind _ = _
  rw [stringBody_escape]
  show (read (skipGap _)).bind _ = _
  rw [hm.skipGap_append, hm.eq (endsNumber_mark (by decide) s)]
  show ((readMembers read fuel s).bind fun (ms, rest) =>
    some ((String.ofList m.1.toList, m.2) :: ms, rest)) = _
  rw [String.ofList_toList]

/-! ### Values -/

/-- A value whose numbers read back, whose objects do not repeat a name, and in which arrays and
objects nest at most `depth` deep. -/
inductive Readable : (depth : Nat) → Json → Prop
  | null {depth : Nat} : Readable depth .null
  | bool {depth : Nat} (b : Bool) : Readable depth (.bool b)
  | number {depth : Nat} {n : Number} : n.ReadsBack → Readable depth (.number n)
  | string {depth : Nat} (s : String) : Readable depth (.string s)
  | array {depth : Nat} {items : List Json} : (∀ j ∈ items, Readable depth j) →
      Readable (depth + 1) (.array items)
  | object {depth : Nat} {ms : List (String × Json)} : (ms.map (·.1)).Nodup →
      (∀ m ∈ ms, Readable depth m.2) → Readable (depth + 1) (.object ms)

theorem readValue_scalar {c : Char} (hbracket : c ≠ '[') (hbrace : c ≠ '\x7b') (depth : Nat)
    (s : List Char) : readValue depth (c :: s) = readScalar (c :: s) := by
  cases depth with
  | zero => rfl
  | succ depth =>
    rw [readValue]
    · exact fun _ h => hbracket (List.cons.inj h).1
    · exact fun _ h => hbrace (List.cons.inj h).1

theorem readScalar_number {c : Char} (hc : IsNumeralChar c) (s : List Char) :
    readScalar (c :: s) =
      (readNumeral? (c :: s)).bind fun (m, rest) => m.value?.bind fun n =>
        some (.number n, rest) := by
  have hne {d : Char} (hd : ¬IsNumeralChar d) : c ≠ d := fun h => hd (h ▸ hc)
  have hn : c ≠ 'n' := hne (by decide)
  have ht : c ≠ 't' := hne (by decide)
  have hf : c ≠ 'f' := hne (by decide)
  have hquote : c ≠ '"' := hne (by decide)
  rw [readScalar]
  · rfl
  · exact fun _ h => hn (List.cons.inj h).1
  · exact fun _ h => ht (List.cons.inj h).1
  · exact fun _ h => hf (List.cons.inj h).1
  · exact fun _ h => hquote (List.cons.inj h).1

theorem not_isGap_of_numeral {c : Char} (hc : IsNumeralChar c) : isGap c = false := by
  rw [Bool.eq_false_iff]
  intro h
  simp only [isGap, Bool.or_eq_true, beq_iff_eq] at h
  rcases h with ((rfl | rfl) | rfl) | rfl <;> revert hc <;> decide

theorem exists_numeralChar {s : List Char} {m : Numeral} (h : readNumeral? s = some (m, [])) :
    ∃ c t, s = c :: t ∧ IsNumeralChar c := by
  obtain ⟨c, t, rfl⟩ := List.exists_cons_of_ne_nil (ne_nil_of_readNumeral? h)
  exact ⟨c, t, rfl, chars_of_readNumeral? h c (List.mem_cons_self ..)⟩

/-- A number is read for its value, if it has one. -/
theorem readValue_numeral {s r : List Char} {m : Numeral} (h : readNumeral? s = some (m, []))
    (hr : EndsNumber r) (depth : Nat) :
    readValue depth (s ++ r) = m.value?.map fun n => (.number n, r) := by
  have hread := takes_readNumeral.append hr h
  obtain ⟨c, t, rfl, hc⟩ := exists_numeralChar h
  have hne {d : Char} (hd : ¬IsNumeralChar d) : c ≠ d := fun h => hd (h ▸ hc)
  rw [List.cons_append] at hread ⊢
  rw [readValue_scalar (hne (by decide)) (hne (by decide)), readScalar_number hc, hread,
    Option.bind_some]
  show (m.value?.bind fun n => some (Json.number n, r)) = _
  cases m.value? with
  | none => rfl
  | some n => rfl

theorem readBy_number {n : Number} (hn : n.ReadsBack) (depth : Nat) :
    ReadBy (readValue depth) (.number n) := by
  obtain ⟨m, hm, hvalue⟩ := hn
  constructor
  · intro r hr
    show readValue depth (n.text.toList ++ r) = _
    rw [readValue_numeral hm hr, hvalue, Option.map_some]
  · obtain ⟨c, t, ht, hc⟩ := exists_numeralChar hm
    refine ⟨c, t, ht, not_isGap_of_numeral hc, ?_⟩
    rintro rfl
    exact absurd hc (by decide)

theorem length_le_intercalate {α : Type} {text : α → List Char} {items : List α}
    (h : ∀ a ∈ items, text a ≠ []) (r : List Char) :
    items.length ≤ ([','].intercalate (items.map text) ++ r).length := by
  induction items with
  | nil => exact Nat.zero_le _
  | cons a items ih =>
    have ha := List.length_pos_iff.mpr (h a (List.mem_cons_self ..))
    cases items with
    | nil =>
      rw [List.map_singleton, List.intercalate_singleton, List.length_append]
      exact Nat.le_add_right_of_le ha
    | cons b items =>
      have hrest := ih fun c hc => h c (List.mem_cons_of_mem _ hc)
      rw [List.map_cons, List.map_cons, List.intercalate_cons_cons, ← List.map_cons,
        List.append_assoc, List.append_assoc, List.length_append, List.length_append,
        List.length_singleton, List.length_cons]
      omega

theorem exists_intercalate {c : Char} {p : List Char} (hp : p.head? = some c)
    (ps : List (List Char)) (r : List Char) : ∃ t, [','].intercalate (p :: ps) ++ r = c :: t := by
  obtain ⟨s, rfl⟩ := List.head?_eq_some_iff.mp hp
  cases ps with
  | nil => exact ⟨_, by rw [List.intercalate_singleton]; rfl⟩
  | cons p' ps => exact ⟨_, by rw [List.intercalate_cons_cons]; rfl⟩

theorem readValue_bracket {c : Char} (hgap : isGap c = false) (hclosing : c ≠ ']') (depth : Nat)
    (t : List Char) :
    readValue (depth + 1) ('[' :: c :: t) =
      (readItems (readValue depth) (c :: t).length (c :: t)).map fun (js, rest) =>
        (.array js, rest) := by
  rw [readValue, skipGap_cons hgap]
  split
  · rename_i h
    exact absurd (List.cons.inj h).1 hclosing
  · rfl

theorem readValue_brace {c : Char} (hgap : isGap c = false) (hclosing : c ≠ '\x7d') (depth : Nat)
    (t : List Char) :
    readValue (depth + 1) ('\x7b' :: c :: t) =
      (readMembers (readValue depth) (c :: t).length (c :: t)).map fun (ms, rest) =>
        (.object ms, rest) := by
  rw [readValue, skipGap_cons hgap]
  split
  · rename_i h
    exact absurd (List.cons.inj h).1 hclosing
  · rfl

theorem ReadBy.ne_nil {j : Json} (h : ReadBy read j) : j.chars ≠ [] := by
  obtain ⟨c, s, hs, -⟩ := h.head
  rw [hs]
  exact List.cons_ne_nil c s

theorem readBy_array {items : List Json} {depth : Nat}
    (hitems : ∀ j ∈ items, ReadBy (readValue depth) j) :
    ReadBy (readValue (depth + 1)) (.array items) := by
  refine ⟨fun {r} _ => ?_, '[', _, chars_array items, by decide, by decide⟩
  rw [chars_array, List.cons_append, List.append_assoc, List.singleton_append]
  cases items with
  | nil => rfl
  | cons j items =>
    have hread := read_intercalate (fun j hj => readItems_last (hitems j hj))
      (fun j hj => readItems_more (hitems j hj)) (List.cons_ne_nil j items)
      (length_le_intercalate (fun j hj => (hitems j hj).ne_nil) (']' :: r)) r
    obtain ⟨c, s, hs, hgap, hclosing⟩ := (hitems j (List.mem_cons_self ..)).head
    obtain ⟨t, ht⟩ := exists_intercalate (hs ▸ List.head?_cons) (items.map chars) (']' :: r)
    rw [List.map_cons, ht] at hread
    rw [List.map_cons, ht, readValue_bracket hgap hclosing, hread]
    rfl

theorem readBy_object {ms : List (String × Json)} {depth : Nat}
    (hms : ∀ m ∈ ms, ReadBy (readValue depth) m.2) :
    ReadBy (readValue (depth + 1)) (.object ms) := by
  refine ⟨fun {r} _ => ?_, '\x7b', _, chars_object ms, by decide, by decide⟩
  rw [chars_object, List.cons_append, List.append_assoc, List.singleton_append]
  cases ms with
  | nil => rfl
  | cons m ms =>
    have hread := read_intercalate (fun m hm => readMembers_last (hms m hm))
      (fun m hm => readMembers_more (hms m hm)) (List.cons_ne_nil m ms)
      (length_le_intercalate (fun m _ => memberChars_ne_nil m) ('\x7d' :: r)) r
    obtain ⟨t, ht⟩ := exists_intercalate (show (memberChars m).head? = some '"' from rfl)
      (ms.map memberChars) ('\x7d' :: r)
    rw [List.map_cons, ht] at hread
    rw [List.map_cons, ht, readValue_brace (by decide) (by decide), hread]
    rfl

theorem chars_string (s : String) : (Json.string s).chars = quoteChars s.toList := by
  rw [chars, compact, quote, String.toList_ofList]

theorem readBy_string (s : String) (depth : Nat) : ReadBy (readValue depth) (.string s) := by
  refine ⟨fun {r} _ => ?_, '"', _, chars_string s, by decide, by decide⟩
  have hbody : (Json.string s).chars ++ r =
      '"' :: (s.toList.flatMap escapeChar ++ '"' :: r) := by
    simp [chars_string, quoteChars]
  rw [hbody, readValue_scalar (by decide) (by decide), readScalar, stringBody_escape]
  show some (Json.string (String.ofList s.toList), r) = _
  rw [String.ofList_toList]

theorem Readable.readBy {depth : Nat} {j : Json} (h : Readable depth j) :
    ReadBy (readValue depth) j := by
  induction h with
  | null =>
    exact ⟨fun {r} _ => readValue_scalar (by decide) (by decide) _ _, 'n', _, rfl, rfl, by decide⟩
  | bool b =>
    cases b with
    | true =>
      exact ⟨fun {r} _ => readValue_scalar (by decide) (by decide) _ _, 't', _, rfl, rfl, by decide⟩
    | false =>
      exact ⟨fun {r} _ => readValue_scalar (by decide) (by decide) _ _, 'f', _, rfl, rfl, by decide⟩
  | number hn => exact readBy_number hn _
  | string s => exact readBy_string s _
  | array _ ih => exact readBy_array ih
  | object _ _ ih => exact readBy_object ih

/-! ### Repeated names -/

theorem insert_new {name : String} {ms : List (String × Json)} (h : name ∉ ms.map (·.1))
    (v : Json) : Json.insert name v ms = ms ++ [(name, v)] := by
  induction ms with
  | nil => rfl
  | cons m ms ih =>
    rw [List.map_cons, List.mem_cons, not_or] at h
    rw [Json.insert, if_neg (Ne.symm h.1), ih h.2, List.cons_append]

theorem foldl_insert_new {ms acc : List (String × Json)} (h : ((acc ++ ms).map (·.1)).Nodup) :
    ms.foldl (fun acc m => Json.insert m.1 m.2 acc) acc = acc ++ ms := by
  induction ms generalizing acc with
  | nil => rw [List.foldl_nil, List.append_nil]
  | cons m ms ih =>
    have hm : m.1 ∉ acc.map (·.1) := by
      rw [List.map_append, List.map_cons, List.nodup_append] at h
      exact fun hmem => h.2.2 m.1 hmem m.1 (List.mem_cons_self ..) rfl
    rw [List.foldl_cons, insert_new hm, ih (by simpa using h), List.append_assoc,
      List.singleton_append]

theorem insertAll_of_nodup {ms : List (String × Json)} (h : (ms.map (·.1)).Nodup) :
    insertAll ms = ms :=
  foldl_insert_new (by rwa [List.nil_append])

theorem collapseItems_eq_map (items : List Json) : collapseItems items = items.map collapse := by
  induction items with
  | nil => rfl
  | cons j items ih => rw [collapseItems, ih, List.map_cons]

theorem collapseMembers_eq_map (ms : List (String × Json)) :
    collapseMembers ms = ms.map fun m => (m.1, collapse m.2) := by
  induction ms with
  | nil => rfl
  | cons m ms ih => rw [collapseMembers, ih, List.map_cons]

theorem Readable.collapse_eq {depth : Nat} {j : Json} (h : Readable depth j) : j.collapse = j := by
  induction h with
  | array _ ih => rw [collapse, collapseItems_eq_map, List.map_congr_left ih, List.map_id']
  | object hnodup _ ih =>
    have hvalues : ∀ m ∈ _, (m.1, collapse m.2) = m := fun m hm => by rw [ih m hm]
    rw [collapse, collapseMembers_eq_map, List.map_congr_left hvalues, List.map_id',
      insertAll_of_nodup hnodup]
  | _ => rfl

/-! ### One line -/

/-- No control character in a text. -/
def Printable (s : List Char) : Prop := ∀ c ∈ s, 0x20 ≤ c.toNat

instance : DecidablePred Printable := fun s =>
  List.decidableBAll (fun c : Char => 0x20 ≤ c.toNat) s

theorem Printable.append {s t : List Char} (hs : Printable s) (ht : Printable t) :
    Printable (s ++ t) :=
  List.forall_mem_append.mpr ⟨hs, ht⟩

theorem Printable.cons {c : Char} (hc : 0x20 ≤ c.toNat) {s : List Char} (hs : Printable s) :
    Printable (c :: s) :=
  List.forall_mem_cons.mpr ⟨hc, hs⟩

theorem Printable.flatMap {α : Type} {f : α → List Char} {as : List α}
    (h : ∀ a ∈ as, Printable (f a)) : Printable (as.flatMap f) := by
  intro c hc
  obtain ⟨a, ha, hc⟩ := List.mem_flatMap.mp hc
  exact h a ha c hc

theorem printable_nil : Printable [] := by simp [Printable]

theorem printable_intercalate {ps : List (List Char)} (h : ∀ p ∈ ps, Printable p) :
    Printable ([','].intercalate ps) := by
  induction ps with
  | nil => exact printable_nil
  | cons p ps ih =>
    have hp := h p (List.mem_cons_self ..)
    cases ps with
    | nil => rwa [List.intercalate_singleton]
    | cons q ps =>
      rw [List.intercalate_cons_cons]
      exact (hp.append (printable_nil.cons (by decide))).append
        (ih fun r hr => h r (List.mem_cons_of_mem _ hr))

theorem printable_numeral {c : Char} (hc : IsNumeralChar c) : 0x20 ≤ c.toNat := by
  rcases hc with hdigit | hmark
  · simp only [Text.isDigit, Bool.and_eq_true, decide_eq_true_eq] at hdigit
    have hlow : '0'.toNat ≤ c.toNat := hdigit.1
    exact Nat.le_trans (by decide) hlow
  · simp only [List.mem_cons, List.not_mem_nil, or_false] at hmark
    rcases hmark with rfl | rfl | rfl | rfl | rfl <;> decide

theorem printable_hexDigit : ∀ n < 16, 0x20 ≤ (hexDigit false n).toNat := by decide

theorem printable_escapeChar (c : Char) : Printable (escapeChar c) := by
  unfold escapeChar
  split
  · decide
  · decide
  · decide
  · decide
  · decide
  · decide
  · decide
  · split
    · rename_i hc
      have hcode : Printable "\\u00".toList := by decide
      exact hcode.append ((printable_nil.cons (printable_hexDigit _ (by omega))).cons
        (printable_hexDigit _ (by omega)))
    · rename_i hc
      exact printable_nil.cons (Nat.le_of_not_lt hc)

theorem printable_quoteChars (s : List Char) : Printable (quoteChars s) :=
  ((Printable.flatMap fun c _ => printable_escapeChar c).cons (by decide)).append
    (printable_nil.cons (by decide))

theorem Readable.printable {depth : Nat} {j : Json} (h : Readable depth j) :
    Printable j.chars := by
  induction h with
  | null => decide
  | bool b => cases b <;> decide
  | number hn => exact fun c hc => printable_numeral (hn.chars c hc)
  | string s =>
    rw [chars_string]
    exact printable_quoteChars s.toList
  | array _ ih =>
    rw [chars_array]
    exact ((printable_intercalate (List.forall_mem_map.mpr ih)).append
      (printable_nil.cons (by decide))).cons (by decide)
  | object _ _ ih =>
    rw [chars_object]
    have hmembers := fun m hm => (printable_quoteChars m.1.toList).append ((ih m hm).cons
      (show 0x20 ≤ ':'.toNat by decide))
    exact ((printable_intercalate (List.forall_mem_map.mpr hmembers)).append
      (printable_nil.cons (by decide))).cons (by decide)

/-! ### Whole texts -/

/-- The value of a text is what is read with nothing behind it. -/
theorem readRaw?_compact {j : Json} {i : Option Json} (hgap : skipGap j.chars = j.chars)
    (h : readValue nestingLimit j.chars = i.map fun i => (i, [])) : readRaw? j.compact = i := by
  rw [readRaw?, show j.compact.toList = j.chars from rfl, hgap, h]
  cases i with
  | none => rfl
  | some i => rfl

theorem Readable.readRaw?_compact {j : Json} (h : Readable nestingLimit j) :
    readRaw? j.compact = some j := by
  have hread := h.readBy.eq endsNumber_nil
  have hgap := h.readBy.skipGap_append []
  rw [List.append_nil] at hread hgap
  exact Json.readRaw?_compact hgap hread

/-- **The compact text of a readable value is read as that value.** -/
theorem Readable.read?_compact {j : Json} (h : Readable nestingLimit j) :
    read? j.compact = some j := by
  rw [read?, h.readRaw?_compact, Option.map_some, h.collapse_eq]

end SqlDialect.Json
