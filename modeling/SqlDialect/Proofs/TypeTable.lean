import Mathlib.Data.List.Induction
import Mathlib.Data.List.Nodup
import SqlDialect.Proofs.ClickHouse.TypeName
/-!
# Tables and the lists they are made from

One fact carries this file (`entries_concat`): a table of a list with one more type at its
end has this type at its end, unless its name occurs in the list before. By induction from
the end of the list follow the entries of a table and what is found in it, and that an index
by name which is kept beside the entries finds the same (`Indexed.Holds.add`).

`ofList_represents` puts together what a table made from a list holds: every type that is the
first of its name, in order. It is found by its name and, whatever its parameters are, by the
texts it is the base of (`IsBase`), and it is in the list of its own category alone.
-/

namespace SqlDialect

namespace TypeTable

open ClickHouse (PlainName)
open Text (Trimmed isBlank)

variable {engine name : String} {types : List NativeType}

/-! ### One more type -/

theorem firsts_concat (seen : List String) (ts : List NativeType) (t : NativeType) :
    firsts seen (ts ++ [t]) =
      if t.name ∈ seen ∨ t.name ∈ ts.map (·.name) then firsts seen ts
      else firsts seen ts ++ [t] := by
  induction ts generalizing seen with
  | nil => simp [firsts]
  | cons u ts ih =>
    rw [List.cons_append, firsts, firsts]
    by_cases hu : u.name ∈ seen
    · -- a name that equals that of `u` has been seen
      have hseen : t.name ∈ seen ∨ t.name ∈ (u :: ts).map (·.name) ↔
          t.name ∈ seen ∨ t.name ∈ ts.map (·.name) := by
        rw [List.map_cons, List.mem_cons, or_left_comm]
        exact or_iff_right_of_imp fun h => Or.inl (h ▸ hu)
      rw [if_pos hu, if_pos hu, ih]
      simp only [hseen]
    · have hseen : t.name ∈ seen ∨ t.name ∈ (u :: ts).map (·.name) ↔
          t.name ∈ u.name :: seen ∨ t.name ∈ ts.map (·.name) := by
        rw [List.map_cons, List.mem_cons, List.mem_cons, or_left_comm, or_assoc]
      rw [if_neg hu, if_neg hu, ih]
      simp only [hseen]
      split <;> simp

/-- **One more type** goes to the end of the table, unless its name has occurred. -/
theorem entries_concat (engine : String) (types : List NativeType) (t : NativeType) :
    (ofList engine (types ++ [t])).entries =
      if t.name ∈ types.map (·.name) then (ofList engine types).entries
      else (ofList engine types).entries ++ [t] := by
  simp [ofList, firsts_concat]

/-! ### The entries -/

/-- The types of a list in front of which no type has their name, in order. -/
def firstOfName (types : List NativeType) : List NativeType :=
  (types.zipIdx.filter fun p => p.1.name ∉ (types.take p.2).map (·.name)).map Prod.fst

theorem firstOfName_concat (types : List NativeType) (t : NativeType) :
    firstOfName (types ++ [t]) =
      if t.name ∈ types.map (·.name) then firstOfName types else firstOfName types ++ [t] := by
  have hfront : (types.zipIdx.filter fun p =>
        p.1.name ∉ ((types ++ [t]).take p.2).map (·.name)) =
      types.zipIdx.filter fun p => p.1.name ∉ (types.take p.2).map (·.name) := by
    refine List.filter_congr fun p hp => ?_
    have hlt : p.2 < types.length := List.snd_lt_of_mem_zipIdx hp
    rw [List.take_append_of_le_length (by omega)]
  have hback : (types ++ [t]).take (0 + types.length) = types := by
    rw [Nat.zero_add, List.take_left]
  rw [firstOfName, List.zipIdx_append, List.filter_append, List.map_append, hfront,
    List.zipIdx_singleton, List.filter_singleton]
  simp only [hback]
  by_cases h : t.name ∈ types.map (·.name) <;> simp [h, firstOfName]

theorem entries_ofList (engine : String) (types : List NativeType) :
    (ofList engine types).entries = firstOfName types := by
  induction types using List.reverseRecOn with
  | nil => rfl
  | append_singleton types t ih => rw [entries_concat, firstOfName_concat, ih]

theorem mem_map_name_entries_iff :
    name ∈ (ofList engine types).entries.map (·.name) ↔ name ∈ types.map (·.name) := by
  induction types using List.reverseRecOn with
  | nil => rfl
  | append_singleton types t ih =>
    rw [entries_concat, List.map_append, List.mem_append]
    split
    · rename_i ht
      refine ih.trans (or_iff_left_of_imp fun h => ?_).symm
      rw [List.map_singleton, List.mem_singleton] at h
      exact h ▸ ht
    · rw [List.map_append, List.mem_append, ih]

/-! ### Types by name -/

theorem get?_eq_none_iff {t : TypeTable} :
    t.get? name = none ↔ name ∉ t.entries.map (·.name) := by
  simp [get?]

theorem get?_eq_some_iff {t : TypeTable} {entry : NativeType} :
    t.get? name = some entry ↔ entry ∈ t.entries ∧ entry.name = name := by
  constructor
  · intro h
    exact ⟨List.mem_of_find?_eq_some h, by simpa using List.find?_some h⟩
  · rintro ⟨hmem, rfl⟩
    exact get?_name hmem

/-- The first type of a name is found in a table. -/
theorem get?_ofList (engine : String) (types : List NativeType) (name : String) :
    (ofList engine types).get? name = types.find? (·.name == name) := by
  induction types using List.reverseRecOn with
  | nil => rfl
  | append_singleton types t ih =>
    unfold get? at ih ⊢
    rw [entries_concat, List.find?_append, ← ih]
    by_cases hnew : t.name ∈ types.map (·.name)
    · rw [if_pos hnew]
      by_cases ht : t.name = name
      · subst ht
        obtain ⟨entry, hentry⟩ : ∃ entry, (ofList engine types).get? t.name = some entry := by
          rw [← Option.ne_none_iff_exists', Ne, get?_eq_none_iff, not_not]
          exact mem_map_name_entries_iff.mpr hnew
        unfold get? at hentry
        rw [hentry, Option.some_or]
      · simp [ht]
    · rw [if_neg hnew, List.find?_append]

theorem lookup_eq_ok_iff {t : TypeTable} {entry : NativeType} :
    t.lookup name = .ok entry ↔ t.get? name = some entry := by
  unfold lookup
  cases t.get? name <;> simp

theorem lookup_eq_error_iff {t : TypeTable} {e : DbError} :
    t.lookup name = .error e ↔ t.get? name = none ∧ e = .unknownDataType t.engine name := by
  unfold lookup
  cases t.get? name <;> simp [eq_comm]

/-! ### An index by name -/

/-- Entries with an index of them by name. -/
structure Indexed where
  entries : List NativeType := []
  byName : Std.HashMap String NativeType := ∅

namespace Indexed

/-- With one more type, unless its name is in the index. -/
def add (b : Indexed) (t : NativeType) : Indexed :=
  if b.byName.contains t.name then b else ⟨b.entries ++ [t], b.byName.insert t.name t⟩

def ofList (types : List NativeType) : Indexed := types.foldl add {}

/-- The entries are those of a table, and in the index is found what is found in the table. -/
structure Holds (b : Indexed) (t : TypeTable) : Prop where
  entries : b.entries = t.entries
  found : ∀ name, b.byName[name]? = t.get? name

/-- **Entries and index are kept in step** by each type, be it added or not. -/
theorem Holds.add {b : Indexed} (h : b.Holds (TypeTable.ofList engine types)) (t : NativeType) :
    (b.add t).Holds (TypeTable.ofList engine (types ++ [t])) := by
  have hcontains : b.byName.contains t.name = true ↔ t.name ∈ types.map (·.name) := by
    rw [Std.HashMap.contains_eq_isSome_getElem?, h.found, Option.isSome_iff_ne_none, Ne,
      get?_eq_none_iff, not_not, mem_map_name_entries_iff]
  by_cases hnew : t.name ∈ types.map (·.name)
  · have hsame : (TypeTable.ofList engine (types ++ [t])).entries =
        (TypeTable.ofList engine types).entries := by
      rw [entries_concat, if_pos hnew]
    rw [Indexed.add, if_pos (hcontains.mpr hnew)]
    refine ⟨h.entries.trans hsame.symm, fun name => ?_⟩
    rw [h.found, get?, get?, hsame]
  · rw [Indexed.add, if_neg (mt hcontains.mp hnew)]
    refine ⟨?_, fun name => ?_⟩
    · rw [entries_concat, if_neg hnew, ← h.entries]
    · have hnone : (TypeTable.ofList engine types).get? t.name = none := by
        rw [get?_eq_none_iff, mem_map_name_entries_iff]
        exact hnew
      rw [Std.HashMap.getElem?_insert, h.found, get?_ofList, get?_ofList, List.find?_append]
      rw [get?_ofList] at hnone
      by_cases ht : t.name = name
      · subst ht
        simp [hnone]
      · simp [ht]

theorem holds_ofList (engine : String) (types : List NativeType) :
    (ofList types).Holds (TypeTable.ofList engine types) := by
  induction types using List.reverseRecOn with
  | nil => exact ⟨rfl, fun name => Std.HashMap.getElem?_empty⟩
  | append_singleton types t ih =>
    rw [ofList, List.foldl_concat]
    exact ih.add t

end Indexed

/-! ### Types by category -/

theorem mem_ofCategory_iff {t : TypeTable} {c : Category} {entry : NativeType} :
    entry ∈ t.ofCategory c ↔ entry ∈ t.entries ∧ entry.category = c := by
  simp [ofCategory]

theorem mem_all (c : Category) : c ∈ Category.all := by cases c <;> decide

/-- **The categories divide the entries** among them. -/
theorem perm_flatMap_ofCategory (t : TypeTable) :
    (Category.all.flatMap t.ofCategory).Perm t.entries := by
  have hnodup : t.entries.Nodup := t.nodup.of_map
  have hall : Category.all.Nodup := by decide
  have hflat : (Category.all.flatMap t.ofCategory).Nodup := by
    refine List.nodup_flatMap.mpr ⟨fun c _ => hnodup.filter _, hall.imp fun {a b} hab => ?_⟩
    intro entry ha hb
    exact hab ((mem_ofCategory_iff.mp ha).2.symm.trans (mem_ofCategory_iff.mp hb).2)
  rw [List.perm_ext_iff_of_nodup hflat hnodup]
  intro entry
  rw [List.mem_flatMap]
  constructor
  · rintro ⟨c, -, hc⟩
    exact (mem_ofCategory_iff.mp hc).1
  · intro h
    exact ⟨entry.category, mem_all _, mem_ofCategory_iff.mpr ⟨h, rfl⟩⟩

/-! ### Types by text -/

/-- The text in front of the parameters of a type text, if there are any, is this name with
nothing but blanks around it. -/
def IsBase (type name : String) : Prop :=
  ∃ front back ps, type.toList = front ++ name.toList ++ back ++ ps ∧
    (∀ c ∈ front, isBlank c = true) ∧ (∀ c ∈ back, isBlank c = true) ∧
    Trimmed name.toList ∧ '(' ∉ name.toList ∧ ∀ c ∈ ps.head?, c = '('

theorem isBase_iff {type : String} : IsBase type name ↔ base type = name := by
  constructor
  · rintro ⟨front, back, ps, htype, hfront, hback, hname, hparen, hps⟩
    have hblank {s : List Char} (hs : ∀ c ∈ s, isBlank c = true) : '(' ∉ s := fun h =>
      absurd (hs '(' h) (by decide)
    have hall : ∀ c ∈ front ++ name.toList ++ back, (c != '(') = true := by
      refine ClickHouse.TypeText.ne_paren_of_not_mem fun h => ?_
      rcases List.mem_append.mp h with h | h
      · rcases List.mem_append.mp h with h | h
        · exact hblank hfront h
        · exact hparen h
      · exact hblank hback h
    have hstop : ps.takeWhile (· != '(') = [] := by
      cases ps with
      | nil => rfl
      | cons c ps =>
        obtain rfl := hps c rfl
        rfl
    rw [base, htype, List.takeWhile_append_of_pos hall, hstop, List.append_nil,
      hname.trimChars_between hfront hback, String.ofList_toList]
  · rintro rfl
    obtain ⟨front, back, hcut, hfront, hback⟩ :=
      Text.exists_blanks_around (type.toList.takeWhile (· != '('))
    have hname : (base type).toList = Text.trimChars (type.toList.takeWhile (· != '(')) :=
      String.toList_ofList
    rw [← hname] at hcut
    refine ⟨front, back, type.toList.dropWhile (· != '('), ?_, hfront, hback, ?_, ?_, ?_⟩
    · rw [← hcut, List.takeWhile_append_dropWhile]
    · rw [hname]
      exact Text.trimmed_trimChars _
    · intro h
      have hmem : '(' ∈ type.toList.takeWhile (· != '(') := by
        rw [hcut]
        exact List.mem_append_left _ (List.mem_append_right _ h)
      exact absurd (List.mem_takeWhile_imp hmem) (by decide)
    · intro c hc
      have hstop := List.head?_dropWhile_not (· != '(') type.toList
      rw [hc] at hstop
      simpa using hstop

theorem resolve_eq_ok_iff {t : TypeTable} {type : String} {entry : NativeType} :
    t.resolve type = .ok entry ↔ entry ∈ t.entries ∧ IsBase type entry.name := by
  rw [isBase_iff, eq_comm (a := base type), ← get?_eq_some_iff, resolve]
  cases t.get? (base type) <;> simp

/-! ### Everything a table holds -/

/-- What a table of an engine holds if it is made from a list of types. -/
structure Represents (engine : String) (types : List NativeType) (t : TypeTable) : Prop where
  engine_eq : t.engine = engine
  /-- The types that are the first of their name, in the order of the list. -/
  entries : t.entries = firstOfName types
  nodup : (t.entries.map (·.name)).Nodup
  /-- The entries and an index by name, filled with the types one by one. -/
  indexed : (Indexed.ofList types).Holds t
  /-- By its name the first type of a name is found. -/
  get? : ∀ name, t.get? name = types.find? (·.name == name)
  lookup : ∀ name entry, t.lookup name = .ok entry ↔ t.get? name = some entry
  lookup_error : ∀ name e, t.lookup name = .error e ↔
    t.get? name = none ∧ e = .unknownDataType engine name
  /-- Each entry is in one list of a category, as often as in the table. -/
  divides : (Category.all.flatMap t.ofCategory).Perm t.entries
  category : ∀ c, (t.ofCategory c).Sublist t.entries ∧ ∀ entry ∈ t.ofCategory c,
    entry.category = c
  resolve : ∀ type entry, t.resolve type = .ok entry ↔ entry ∈ t.entries ∧ IsBase type entry.name
  resolve_error : ∀ type e, t.resolve type = .error e ↔
    (¬∃ entry ∈ t.entries, IsBase type entry.name) ∧ e = .unknownDataType engine type
  /-- Whatever stands behind the parenthesis. -/
  parameters : ∀ entry ∈ t.entries, PlainName entry.name →
    ∀ ps, t.resolve (entry.name ++ "(" ++ ps) = .ok entry

/-- **What a table made from a list holds**, whatever names the list repeats. -/
theorem ofList_represents (engine : String) (types : List NativeType) :
    Represents engine types (ofList engine types) where
  engine_eq := rfl
  entries := entries_ofList engine types
  nodup := nodup_firsts [] types
  indexed := Indexed.holds_ofList engine types
  get? := get?_ofList engine types
  lookup _ _ := lookup_eq_ok_iff
  lookup_error _ _ := lookup_eq_error_iff
  divides := perm_flatMap_ofCategory _
  category _ := ⟨List.filter_sublist, fun _ h => (mem_ofCategory_iff.mp h).2⟩
  resolve _ _ := resolve_eq_ok_iff
  resolve_error _ _ := by
    simp only [resolve_eq_error_iff, resolve_eq_ok_iff]
    rfl
  parameters entry hentry hname ps := by
    rw [String.append_assoc]
    refine ClickHouse.resolve_append hentry hname fun c hc => ?_
    rw [String.toList_append] at hc
    exact (Option.some.inj hc).symm

/-- The second type named `A` is not in the table, neither by name nor by category. -/
theorem ofList_represents_of_repeated :
    let types : List NativeType :=
      [⟨"A", .int4, .int4⟩, ⟨"B", .date, .date⟩, ⟨"A", .date, .date⟩]
    (ofList "e" types).entries = [⟨"A", .int4, .int4⟩, ⟨"B", .date, .date⟩] ∧
      (ofList "e" types).lookup "A" = .ok ⟨"A", .int4, .int4⟩ ∧
      (ofList "e" types).resolve "A(3, 'x')" = .ok ⟨"A", .int4, .int4⟩ := by
  intro types
  have h := ofList_represents "e" types
  have hentries : (ofList "e" types).entries = [⟨"A", .int4, .int4⟩, ⟨"B", .date, .date⟩] :=
    h.entries.trans (by decide)
  refine ⟨hentries, (h.lookup _ _).mpr ((h.get? "A").trans rfl), ?_⟩
  refine h.parameters ⟨"A", .int4, .int4⟩ ?_ ⟨by decide, by decide⟩ "3, 'x')"
  rw [hentries]
  exact List.mem_cons_self

end TypeTable

end SqlDialect
