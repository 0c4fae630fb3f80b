import SqlDialect.Proofs.ClickHouse.Insert
/-!
# What an insert that replaces rows leaves behind

A table is a list of rows. A `Change` is what one statement does to it: rows are
appended, or those are removed whose value at one place has one of some literals.

With the strategy `update`, `insert` returns the statements of such changes, and
`update_run` says what they make of any table: of the stored rows those go that
have, in the first column of the primary key, the literal of an incoming value that
is not NULL, and the incoming rows follow. Other columns of the primary key do not
count. So where one column is the whole key, only rows whose key comes in are
replaced; where there are more, a row may go whose key does not come in
(`lost_row`).
-/

namespace SqlDialect.ClickHouse

def literalAt? (cs : List Column) (place : Nat) (row : List Cell) : Option String :=
  match cs[place]?, row[place]? with
  | some c, some value => (vocabulary.literal c value).toOption
  | _, _ => none

/-- What one statement does to the rows of a table. -/
inductive Change
  /-- Rows go that have one of these literals in a column. -/
  | delete (place : Nat) (keys : List String)
  | insert (rows : List (List Cell))

namespace Change

def text (table : String) (cs : List Column) : Change → Except DbError String
  | delete place keys =>
    match cs[place]? with
    | some key => .ok (deleteKeys table key keys)
    | none => .error (.noColumns table)
  | insert rows => do
    let ts ← cs.mapM vocabulary.resolve
    return insertRows table cs ts rows

def run (cs : List Column) : Change → List (List Cell) → List (List Cell)
  | delete place keys, stored => stored.filter fun row => !(literalAt? cs place row).any (· ∈ keys)
  | insert rows, stored => stored ++ rows

def runAll (cs : List Column) (changes : List Change) (stored : List (List Cell)) :
    List (List Cell) := changes.foldl (fun rows change => change.run cs rows) stored

end Change

/-- Whether a row gives way to a new one, by the column at one place: the new value
is not NULL, and both have the same literal. -/
def givesWay (cs : List Column) (place : Nat) (row new : List Cell) : Bool :=
  new[place]?.any (fun value => !value.isNull) && (literalAt? cs place row).isSome &&
    literalAt? cs place new == literalAt? cs place row

/-- Two rows have the same primary key: the same literal in each of its columns. -/
def SameKey (cs : List Column) (row row' : List Cell) : Prop :=
  ∀ place c, cs[place]? = some c → c.isPrimaryKey = true →
    literalAt? cs place row = literalAt? cs place row'

/-! ### The keys of the incoming rows -/

theorem mem_distinctFrom {s : String} {seen ss : List String} :
    s ∈ distinctFrom seen ss ↔ s ∈ ss ∧ s ∉ seen := by
  induction ss generalizing seen with
  | nil => simp [distinctFrom]
  | cons t ss ih =>
    rw [distinctFrom]
    split
    · rename_i ht
      rw [ih, List.mem_cons]
      constructor
      · rintro ⟨hs, hseen⟩
        exact ⟨Or.inr hs, hseen⟩
      · rintro ⟨rfl | hs, hseen⟩
        · exact absurd ht hseen
        · exact ⟨hs, hseen⟩
    · rename_i ht
      rw [List.mem_cons, ih, List.mem_cons, List.mem_cons, not_or]
      by_cases hst : s = t
      · subst hst
        simp [ht]
      · simp [hst]

theorem mem_keyLiterals {s : String} {place : Nat} {category : Category}
    {rows : List (List Cell)} :
    s ∈ keyLiterals place category rows ↔
      ∃ row ∈ rows, ∃ value, row[place]? = some value ∧ value.isNull = false ∧
        value.literal category literals = s := by
  rw [keyLiterals, mem_distinctFrom, and_iff_left List.not_mem_nil, List.mem_filterMap]
  constructor
  · rintro ⟨value, hvalue, h⟩
    obtain ⟨row, hrow, hplace⟩ := List.mem_filterMap.mp hvalue
    split at h
    · cases h
    · rename_i hnull
      exact ⟨row, hrow, value, hplace, Bool.eq_false_iff.mpr hnull, Option.some.inj h⟩
  · rintro ⟨row, hrow, value, hplace, hnull, hs⟩
    refine ⟨value, List.mem_filterMap.mpr ⟨row, hrow, hplace⟩, ?_⟩
    rw [hnull, if_neg Bool.false_ne_true, hs]

theorem literalAt?_eq {cs : List Column} {place : Nat} {c : Column} {type : NativeType}
    (hc : cs[place]? = some c) (htype : vocabulary.resolve c = .ok type) (row : List Cell) :
    literalAt? cs place row =
      row[place]?.map fun value => value.literal type.category literals := by
  rw [literalAt?, hc]
  cases row[place]? with
  | none => rfl
  | some value =>
    show (vocabulary.literal c value).toOption = _
    rw [Vocabulary.literal, htype]
    rfl

/-- A row goes with the keys of the incoming rows exactly if it gives way to one of
them. -/
theorem any_mem_keyLiterals {cs : List Column} {place : Nat} {c : Column} {type : NativeType}
    (hc : cs[place]? = some c) (htype : vocabulary.resolve c = .ok type)
    (rows : List (List Cell)) (row : List Cell) :
    (literalAt? cs place row).any (· ∈ keyLiterals place type.category rows) =
      rows.any (givesWay cs place row) := by
  rw [Bool.eq_iff_iff, List.any_eq_true, Option.any_eq_true]
  constructor
  · rintro ⟨s, hs, hmem⟩
    obtain ⟨new, hnew, value, hvalue, hnull, hlit⟩ := mem_keyLiterals.mp (of_decide_eq_true hmem)
    have hnewlit : literalAt? cs place new = some s := by
      rw [literalAt?_eq hc htype, hvalue, Option.map_some, hlit]
    refine ⟨new, hnew, ?_⟩
    rw [givesWay, hvalue, hs, hnewlit]
    simp [hnull]
  · rintro ⟨new, hnew, h⟩
    rw [givesWay, Bool.and_eq_true, Bool.and_eq_true, Option.any_eq_true, beq_iff_eq,
      Option.isSome_iff_exists] at h
    obtain ⟨⟨⟨value, hvalue, hnull⟩, s, hs⟩, heq⟩ := h
    refine ⟨s, hs, decide_eq_true (mem_keyLiterals.mpr ⟨new, hnew, value, hvalue, ?_, ?_⟩)⟩
    · rwa [Bool.not_eq_true'] at hnull
    · rw [literalAt?_eq hc htype, hvalue, hs] at heq
      exact Option.some.inj heq

/-! ### The changes of an update -/

theorem keyIndex_eq {cs : List Column} {place : Nat}
    (hplace : cs.findIdx? (·.isPrimaryKey) = some place) : keyIndex cs = place := by
  rw [keyIndex, hplace, Option.getD_some]

/-- Rows make room if any incoming row has a key. -/
theorem makeRoom_eq {table : String} {cs : List Column} {ts : List NativeType} {place : Nat}
    {key : Column} {type : NativeType} (hplace : keyIndex cs = place)
    (hkey : cs[place]? = some key) (htype : ts[place]? = some type) (rows : List (List Cell)) :
    makeRoom table cs ts rows =
      if keyLiterals place type.category rows = [] then []
      else [deleteKeys table key (keyLiterals place type.category rows)] := by
  rw [makeRoom, hplace, hkey, htype]
  simp only [List.isEmpty_iff]

/-- The changes that replace rows: first those that give way are removed, if any
incoming row has a key, then the incoming rows are appended. -/
theorem exists_changes {table : String} {cs : List Column} {rows : List (List Cell)}
    {statements : List String} {place : Nat}
    (hplace : cs.findIdx? (·.isPrimaryKey) = some place)
    (h : insert table cs rows .update = .ok statements) :
    ∃ changes : List Change, changes.mapM (Change.text table cs) = .ok statements ∧
      ∀ stored, Change.runAll cs changes stored =
        (stored.filter fun row => !rows.any (givesWay cs place row)) ++ rows := by
  rcases insert_eq_ok_iff.mp h with ⟨rfl, rfl⟩ | ⟨hrows, hcs, hwidth, ts, hts, rfl⟩
  · refine ⟨[], rfl, fun stored => ?_⟩
    simp [Change.runAll]
  · obtain ⟨hlen, hresolve⟩ := List.forall₂_iff_get.mp (mapM_eq_ok_iff.mp hts)
    obtain ⟨hlt, -⟩ := List.findIdx?_eq_some_iff_getElem.mp hplace
    have hc : cs[place]? = some cs[place] := List.getElem?_eq_getElem hlt
    have ht : ts[place]? = some ts[place] := List.getElem?_eq_getElem (hlen ▸ hlt)
    have htype : vocabulary.resolve cs[place] = .ok ts[place] := hresolve place hlt (hlen ▸ hlt)
    have hgo := any_mem_keyLiterals hc htype rows
    have hinsert : (Change.insert rows).text table cs = .ok (insertRows table cs ts rows) := by
      rw [Change.text, hts]
      rfl
    rw [preparation, makeRoom_eq (keyIndex_eq hplace) hc ht]
    split
    · -- no incoming row has a key, so no row gives way
      rename_i hnone
      refine ⟨[.insert rows], ?_, fun stored => ?_⟩
      · rw [List.mapM_cons, hinsert]
        rfl
      · have hkeep : ∀ row ∈ stored, (!rows.any (givesWay cs place row)) = true := by
          intro row _
          rw [← hgo row, hnone]
          simp
        rw [List.filter_eq_self.mpr hkeep]
        rfl
    · refine ⟨[.delete place (keyLiterals place ts[place].category rows), .insert rows], ?_,
        fun stored => ?_⟩
      · rw [List.mapM_cons, List.mapM_cons, hinsert, Change.text, hc]
        rfl
      · simp only [Change.runAll, List.foldl_cons, List.foldl_nil, Change.run, hgo]

theorem givesWay_eq_false {cs : List Column} {place : Nat} {row new : List Cell}
    (h : literalAt? cs place new ≠ literalAt? cs place row) :
    givesWay cs place row new = false := by
  rw [givesWay, beq_false_of_ne h, Bool.and_false]

/-- **What replacing rows makes of a table.** Of the stored rows those go that have
the literal of an incoming value in the first column of the primary key. A row that
differs there from every incoming row stays, and if this column is the whole key, so
does every row whose key does not come in. -/
theorem update_run {table : String} {cs : List Column} {rows : List (List Cell)}
    {statements : List String} (hkey : ∃ c ∈ cs, c.isPrimaryKey = true)
    (h : insert table cs rows .update = .ok statements) :
    ∃ place, cs.findIdx? (·.isPrimaryKey) = some place ∧
      ∃ changes : List Change, changes.mapM (Change.text table cs) = .ok statements ∧
        ∀ stored,
          Change.runAll cs changes stored =
            (stored.filter fun row => !rows.any (givesWay cs place row)) ++ rows ∧
          (∀ row ∈ stored, (∀ new ∈ rows, literalAt? cs place new ≠ literalAt? cs place row) →
            row ∈ Change.runAll cs changes stored) ∧
          ((∀ j c, cs[j]? = some c → c.isPrimaryKey = true → j = place) →
            ∀ row ∈ stored, (∀ new ∈ rows, ¬SameKey cs row new) →
              row ∈ Change.runAll cs changes stored) := by
  obtain ⟨c, hc, hflag⟩ := hkey
  obtain ⟨place, hplace⟩ := Option.isSome_iff_exists.mp
    (List.findIdx?_isSome.trans (List.any_eq_true.mpr ⟨c, hc, hflag⟩))
  obtain ⟨changes, hchanges, hrun⟩ := exists_changes hplace h
  have hstays : ∀ stored, ∀ row ∈ stored,
      (∀ new ∈ rows, literalAt? cs place new ≠ literalAt? cs place row) →
      row ∈ Change.runAll cs changes stored := by
    intro stored row hrow hdiff
    rw [hrun, List.mem_append, List.mem_filter]
    refine Or.inl ⟨hrow, ?_⟩
    rw [Bool.not_eq_true', List.any_eq_false]
    intro new hnew
    rw [givesWay_eq_false (hdiff new hnew)]
    exact Bool.false_ne_true
  refine ⟨place, hplace, changes, hchanges, fun stored => ⟨hrun stored, hstays stored, ?_⟩⟩
  intro hsingle row hrow hdiff
  refine hstays stored row hrow fun new hnew heq => hdiff new hnew ?_
  intro j c hj hjkey
  rw [hsingle j c hj hjkey, heq]

/-! ### A key of two columns -/

/-- Two columns that are the primary key together. -/
def pair : List Column :=
  [⟨"t", "a", "Int32", none, false, true, none, false⟩,
    ⟨"t", "b", "Int32", none, false, true, none, false⟩]

theorem resolve_pair :
    ∀ c ∈ pair, vocabulary.resolve c = .ok ⟨"Int32", .int4, .int4⟩ := by
  have htype (c : Column) (hc : c.dataType = "Int32") :
      vocabulary.resolve c = .ok ⟨"Int32", .int4, .int4⟩ :=
    @resolve_of_normalizeType c "Int32" _ (by rw [hc]; decide +kernel) rfl
  exact List.forall_mem_cons.mpr ⟨htype _ rfl, List.forall_mem_singleton.mpr (htype _ rfl)⟩

theorem mapM_resolve_pair :
    pair.mapM vocabulary.resolve = .ok [⟨"Int32", .int4, .int4⟩, ⟨"Int32", .int4, .int4⟩] :=
  mapM_eq_ok_iff.mpr (.cons (resolve_pair _ (by decide)) (.cons (resolve_pair _ (by decide)) .nil))

theorem literalAt?_pair {place : Nat} {c : Column} (hc : pair[place]? = some c) (row : List Cell) :
    literalAt? pair place row = row[place]?.map fun value => value.literal .int4 literals :=
  literalAt?_eq hc (resolve_pair c (List.mem_of_getElem? hc)) row

theorem insert_pair :
    insert "t" pair [[.int32 1, .int32 2]] .update =
      .ok ["ALTER TABLE \x60t\x60 DELETE WHERE \x60a\x60 IN (1)",
        "INSERT INTO \x60t\x60 (\x60a\x60, \x60b\x60) VALUES (1, 2)"] :=
  insert_eq_ok_iff.mpr (Or.inr ⟨by simp, by decide, by simp [pair], _, mapM_resolve_pair,
    by decide +kernel⟩)

/-- A row that differs in the first column of the key stays. -/
theorem update_run_pair :
    ∃ changes : List Change,
      changes.mapM (Change.text "t" pair) =
        .ok ["ALTER TABLE \x60t\x60 DELETE WHERE \x60a\x60 IN (1)",
          "INSERT INTO \x60t\x60 (\x60a\x60, \x60b\x60) VALUES (1, 2)"] ∧
      [.int32 2, .int32 2] ∈ Change.runAll pair changes [[.int32 2, .int32 2]] := by
  have hkey : ∃ c ∈ pair, c.isPrimaryKey = true := ⟨_, List.mem_cons_self .., rfl⟩
  obtain ⟨place, hplace, changes, hchanges, hrun⟩ := update_run hkey insert_pair
  obtain rfl : 0 = place := Option.some.inj hplace
  refine ⟨changes, hchanges, (hrun [[.int32 2, .int32 2]]).2.1 _ (List.mem_singleton_self _) ?_⟩
  rw [List.forall_mem_singleton, literalAt?_pair rfl, literalAt?_pair rfl]
  decide +kernel

/-- **A row whose key does not come in is lost.** The key of the stored row differs
from that of the incoming one in its second column. -/
theorem lost_row :
    insert "t" pair [[.int32 1, .int32 2]] .update =
        .ok ["ALTER TABLE \x60t\x60 DELETE WHERE \x60a\x60 IN (1)",
          "INSERT INTO \x60t\x60 (\x60a\x60, \x60b\x60) VALUES (1, 2)"] ∧
      [Change.delete 0 ["1"], Change.insert [[.int32 1, .int32 2]]].mapM (Change.text "t" pair) =
        .ok ["ALTER TABLE \x60t\x60 DELETE WHERE \x60a\x60 IN (1)",
          "INSERT INTO \x60t\x60 (\x60a\x60, \x60b\x60) VALUES (1, 2)"] ∧
      ¬SameKey pair [.int32 1, .int32 1] [.int32 1, .int32 2] ∧
      Change.runAll pair [.delete 0 ["1"], .insert [[.int32 1, .int32 2]]]
        [[.int32 1, .int32 1]] = [[.int32 1, .int32 2]] := by
  refine ⟨insert_pair, ?_, ?_, ?_⟩
  · simp only [List.mapM_cons, Change.text, mapM_resolve_pair]
    decide +kernel
  · intro h
    have h1 := h 1 _ rfl rfl
    rw [literalAt?_pair rfl, literalAt?_pair rfl] at h1
    exact absurd h1 (by decide +kernel)
  · have hlit : literalAt? pair 0 [.int32 1, .int32 1] = some "1" := by
      rw [literalAt?_pair rfl]
      decide +kernel
    simp [Change.runAll, Change.run, hlit]

end SqlDialect.ClickHouse
