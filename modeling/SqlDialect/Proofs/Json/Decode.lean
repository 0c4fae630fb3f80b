import SqlDialect.Json.Decode
import SqlDialect.Proofs.Json.RoundTrip
/-!
# Typed values from JSON text

A value of some type is decoded by reading the whole text as JSON and taking the value from it
(`decode?`). The JSON that was written is the JSON that is taken (`decode?_compact`), if it nests
no deeper than the reader goes. How deep that is can be computed (`depth`), and what is readable at
some depth is so wherever there is room for it (`Readable.mono`).

Two texts need a closer look. One holds an integer that may be of any size: out of 64 bits, it is
read as a floating point number or not at all (`readRaw?_member_int`). The other is a record with
some of its fields left out: the fields that are there are found, the others are not
(`Layout.record?_without`).
-/

namespace SqlDialect.Json

variable {α : Type}

def decode? (f : Json → Option α) (s : String) : Option α := (readRaw? s).bind f

theorem decode?_compact (f : Json → Option α) {j : Json} (h : Readable nestingLimit j) :
    decode? f j.compact = f j := by
  rw [decode?, h.readRaw?_compact, Option.bind_some]

/-! ### Depth -/

mutual

/-- How deep arrays and objects nest. -/
def depth : Json → Nat
  | .array items => depthItems items + 1
  | .object members => depthMembers members + 1
  | _ => 0

def depthItems : List Json → Nat
  | [] => 0
  | j :: js => max (depth j) (depthItems js)

def depthMembers : List (String × Json) → Nat
  | [] => 0
  | (_, j) :: ms => max (depth j) (depthMembers ms)

end

theorem depth_le_depthItems {j : Json} {items : List Json} (hj : j ∈ items) :
    j.depth ≤ depthItems items := by
  induction items with
  | nil => cases hj
  | cons i items ih =>
    rw [depthItems]
    rcases List.mem_cons.mp hj with rfl | hj
    · exact Nat.le_max_left ..
    · exact Nat.le_trans (ih hj) (Nat.le_max_right ..)

theorem Readable.mono {j : Json} {m n : Nat} (h : Readable m j) (hle : m ≤ n) : Readable n j := by
  induction h generalizing n with
  | null => exact .null
  | bool b => exact .bool b
  | number hn => exact .number hn
  | string s => exact .string s
  | array _ ih =>
    obtain ⟨n, rfl⟩ := Nat.exists_eq_add_of_le' (Nat.lt_of_lt_of_le (Nat.succ_pos _) hle)
    exact .array fun j hj => ih j hj (Nat.le_of_succ_le_succ hle)
  | object hnodup _ ih =>
    obtain ⟨n, rfl⟩ := Nat.exists_eq_add_of_le' (Nat.lt_of_lt_of_le (Nat.succ_pos _) hle)
    exact .object hnodup fun m hm => ih m hm (Nat.le_of_succ_le_succ hle)

theorem readable_array {items : List Json} (h : ∀ j ∈ items, Readable j.depth j) :
    Readable (Json.array items).depth (.array items) :=
  .array fun j hj => (h j hj).mono (depth_le_depthItems hj)

/-! ### Integers of any size -/

theorem intIn?_eq_some_iff {low high n : Int} {j : Json} :
    j.intIn? low high = some n ↔ (low ≤ n ∧ n < high) ∧ j = .int n := by
  unfold intIn?
  split
  · rename_i m
    rw [Option.ite_none_right_eq_some, Option.some.injEq]
    constructor
    · rintro ⟨hm, rfl⟩
      exact ⟨hm, rfl⟩
    · rintro ⟨hn, ⟨⟩⟩
      exact ⟨hn, rfl⟩
  · rename_i hj
    refine iff_of_false (fun h => nomatch h) ?_
    rintro ⟨-, rfl⟩
    exact hj n rfl

/-- An integer under a name is what its digits are read as, if they are a number at all. -/
theorem readMembers_int (name : String) (n : Int) (depth fuel : Nat) (r : List Char) :
    readMembers (readValue depth) (fuel + 1) (memberChars (name, .int n) ++ '\x7d' :: r) =
      (Numeral.ofInt n).value?.map fun m => ([(name, .number m)], r) := by
  obtain ⟨c, t, ht, hc⟩ := exists_numeralChar (readNumeral?_toString n)
  have hgap : skipGap ((toString n).toList ++ '\x7d' :: r) =
      (toString n).toList ++ '\x7d' :: r := by
    rw [ht, List.cons_append, skipGap_cons (not_isGap_of_numeral hc)]
  rw [memberChars_append, readMembers, skipGap_cons (by decide)]
  show (stringBody _).bind _ = _
  rw [stringBody_escape]
  show (readValue depth (skipGap ((toString n).toList ++ '\x7d' :: r))).bind _ = _
  rw [hgap, readValue_numeral (readNumeral?_toString n) (endsNumber_mark (by decide) r)]
  cases (Numeral.ofInt n).value? with
  | none => rfl
  | some m =>
    show some ([(String.ofList name.toList, Json.number m)], r) = _
    rw [String.ofList_toList]
    rfl

/-- **An object with one integer** is read with what the integer is read as. -/
theorem readRaw?_member_int (name : String) (n : Int) :
    readRaw? (Json.object [(name, .int n)]).compact =
      (Numeral.ofInt n).value?.map fun m => .object [(name, .number m)] := by
  have hchars : (Json.object [(name, .int n)]).chars =
      '\x7b' :: (memberChars (name, .int n) ++ ['\x7d']) := by
    rw [chars_object, List.map_singleton, List.intercalate_singleton]
  refine readRaw?_compact ?_ ?_
  · rw [hchars, skipGap_cons (by decide)]
  · rw [hchars, memberChars_append, show nestingLimit = 126 + 1 from rfl,
      readValue_brace (by decide) (by decide), List.length_cons, ← memberChars_append,
      readMembers_int, Option.map_map, Option.map_map]
    rfl

/-! ### Records -/

def members : Json → List (String × Json)
  | .object members => members
  | _ => []

/-- The same object without the members of some names. -/
def without (names : List String) : Json → Json
  | .object members => .object (members.filter fun m => m.1 ∉ names)
  | j => j

theorem Readable.without {depth : Nat} {j : Json} (h : Readable depth j) (names : List String) :
    Readable depth (j.without names) := by
  cases h with
  | object hnodup hms =>
    exact .object (hnodup.sublist ((List.filter_sublist ..).map _))
      fun m hm => hms m (List.mem_filter.mp hm).1
  | null => exact .null
  | bool b => exact .bool b
  | number hn => exact .number hn
  | string s => exact .string s
  | array hitems => exact .array hitems

theorem occurrences_le_one {ms : List (String × Json)} (h : (ms.map (·.1)).Nodup)
    (name : String) : occurrences name ms ≤ 1 := by
  have hcount := List.nodup_iff_count.mp h name
  rwa [List.count, List.countP_map, List.countP_eq_length_filter] at hcount

theorem lookup_of_not_mem {name : String} {ms : List (String × Json)}
    (h : name ∉ ms.map (·.1)) : lookup name ms = none := by
  induction ms with
  | nil => rfl
  | cons m ms ih =>
    rw [List.map_cons, List.mem_cons, not_or] at h
    rw [lookup, if_neg (Ne.symm h.1), ih h.2]

/-- **Of two members only one is found by a name**, if they have different names. -/
theorem lookup_of_mem {m : String × Json} {ms : List (String × Json)}
    (h : (ms.map (·.1)).Nodup) (hm : m ∈ ms) : lookup m.1 ms = some m.2 := by
  induction ms with
  | nil => cases hm
  | cons m' ms ih =>
    rw [List.map_cons, List.nodup_cons] at h
    rcases List.mem_cons.mp hm with rfl | hm
    · rw [lookup, if_pos rfl]
    · have hne : m'.1 ≠ m.1 := fun heq => h.1 (heq ▸ List.mem_map_of_mem hm)
      rw [lookup, if_neg hne, ih h.2 hm]

/-- How values of a type are written as records: their fields with the names, which differ. -/
structure Layout (α : Type) where
  names : List String
  members : α → List (String × Json)
  names_members : ∀ a, (members a).map (·.1) = names
  nodup : names.Nodup
  /-- No field holds an array or an object. -/
  readable : ∀ a, ∀ m ∈ members a, Readable 0 m.2

namespace Layout

variable (l : Layout α) (a : α)

theorem nodup_members : ((l.members a).map (·.1)).Nodup := by
  rw [l.names_members]
  exact l.nodup

theorem readable_object : Readable 1 (.object (l.members a)) :=
  .object (l.nodup_members a) (l.readable a)

/-- **A record with fields left out**: the others are found, in the order of their names. -/
theorem record?_without (omitted : List String) :
    ((Json.object (l.members a)).without omitted).record? l.names =
      some ((l.members a).map fun m => if m.1 ∈ omitted then none else some m.2) := by
  have hkept : (((l.members a).filter fun m => m.1 ∉ omitted).map (·.1)).Nodup :=
    (l.nodup_members a).sublist ((List.filter_sublist ..).map _)
  rw [Json.without, record?, if_pos, ← l.names_members a, List.map_map]
  · congr 1
    refine List.map_congr_left fun m hm => ?_
    show lookup m.1 _ = _
    split
    · rename_i hout
      refine lookup_of_not_mem fun hmem => ?_
      obtain ⟨m', hm', hname⟩ := List.mem_map.mp hmem
      have hkeep := (List.mem_filter.mp hm').2
      rw [hname] at hkeep
      exact of_decide_eq_true hkeep hout
    · rename_i hin
      exact lookup_of_mem hkept (List.mem_filter.mpr ⟨hm, decide_eq_true hin⟩)
  · rw [List.all_eq_true]
    exact fun name _ => decide_eq_true (occurrences_le_one hkept name)

end Layout

theorem without_nil (j : Json) : j.without [] = j := by
  cases j with
  | object ms => simp [without]
  | _ => rfl

end SqlDialect.Json
