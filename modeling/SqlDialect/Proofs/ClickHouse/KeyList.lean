import SqlDialect.Proofs.ClickHouse.Replace
/-!
# The keys that make room

An insert that replaces rows names the keys of the rows that are to go. `insert_keys`:
whatever the strategy, the last statement is the same insert of the same cells, and
only `update` puts a statement in front of it. The list of this statement has the cells
of the key column as they stand in the insert, without those of NULL values and each
at the place of its first occurrence; it is left out if no such cell is there.

The cells are written once for the insert and once more for the keys (`keyCells_eq`).
That the loop over the keys keeps the first of equal ones, and the order, is an induction
over the cells with those that have been seen (`pairwise_distinctFrom`).
-/

namespace SqlDialect.ClickHouse

/-! ### First occurrences -/

/-- The strings of a list, each once and in the order in which they first occur. -/
structure FirstOccurrences (ss firsts : List String) : Prop where
  mem_iff : ∀ s, s ∈ firsts ↔ s ∈ ss
  ordered : firsts.Pairwise fun s t => ss.idxOf s < ss.idxOf t

theorem FirstOccurrences.nodup {ss firsts : List String} (h : FirstOccurrences ss firsts) :
    firsts.Nodup := by
  refine h.ordered.imp ?_
  rintro s t hlt rfl
  omega

theorem FirstOccurrences.eq_nil_iff {ss firsts : List String} (h : FirstOccurrences ss firsts) :
    firsts = [] ↔ ss = [] := by
  rw [List.eq_nil_iff_forall_not_mem, List.eq_nil_iff_forall_not_mem]
  exact forall_congr' fun s => not_congr (h.mem_iff s)

/-- **What has not been seen comes in order.** -/
theorem pairwise_distinctFrom (seen ss : List String) :
    (distinctFrom seen ss).Pairwise fun s t => ss.idxOf s < ss.idxOf t := by
  induction ss generalizing seen with
  | nil => exact List.Pairwise.nil
  | cons x ss ih =>
    -- behind `x` every other string is found one place later
    have hlater {seen' : List String} (hx : x ∈ seen') :
        (distinctFrom seen' ss).Pairwise fun s t =>
          (x :: ss).idxOf s < (x :: ss).idxOf t := by
      refine (ih seen').imp_of_mem fun {s t} hs ht hlt => ?_
      have hsx : s ≠ x := fun h => (mem_distinctFrom.mp hs).2 (h ▸ hx)
      have htx : t ≠ x := fun h => (mem_distinctFrom.mp ht).2 (h ▸ hx)
      rw [List.idxOf_cons_ne _ hsx.symm, List.idxOf_cons_ne _ htx.symm]
      omega
    rw [distinctFrom]
    split
    · rename_i hx
      exact hlater hx
    · refine List.pairwise_cons.mpr ⟨fun t ht => ?_, hlater (List.mem_cons_self ..)⟩
      have htx : t ≠ x := fun h => (mem_distinctFrom.mp ht).2 (h ▸ List.mem_cons_self ..)
      rw [List.idxOf_cons_self, List.idxOf_cons_ne _ htx.symm]
      omega

theorem firstOccurrences_distinctFrom (ss : List String) :
    FirstOccurrences ss (distinctFrom [] ss) where
  mem_iff s := by rw [mem_distinctFrom, and_iff_left List.not_mem_nil]
  ordered := pairwise_distinctFrom [] ss

/-! ### The column of the key -/

/-- The column of the key: the first one of the primary key, or the first one of all if
none is of the primary key. -/
def IsKeyColumn (cs : List Column) (place : Nat) (key : Column) : Prop :=
  cs[place]? = some key ∧
    ((key.isPrimaryKey = true ∧ ∀ j < place, ∀ c, cs[j]? = some c → c.isPrimaryKey = false) ∨
      (place = 0 ∧ ∀ c ∈ cs, c.isPrimaryKey = false))

theorem exists_isKeyColumn {cs : List Column} (hcs : cs ≠ []) :
    ∃ key, IsKeyColumn cs (keyIndex cs) key := by
  cases hplace : cs.findIdx? (·.isPrimaryKey) with
  | none =>
    obtain ⟨key, rest, rfl⟩ := List.exists_cons_of_ne_nil hcs
    rw [keyIndex, hplace, Option.getD_none]
    exact ⟨key, rfl, Or.inr ⟨rfl, List.findIdx?_eq_none_iff.mp hplace⟩⟩
  | some place =>
    obtain ⟨hlt, hkey, hbefore⟩ := List.findIdx?_eq_some_iff_getElem.mp hplace
    rw [keyIndex_eq hplace]
    refine ⟨cs[place], List.getElem?_eq_getElem hlt, Or.inl ⟨hkey, fun j hj c hc => ?_⟩⟩
    obtain ⟨hjlt, rfl⟩ := List.getElem?_eq_some_iff.mp hc
    exact Bool.eq_false_iff.mpr (hbefore j hj)

/-- The cells of a column as they are written, without those of NULL values. -/
def keyCells (place : Nat) (rows : List (List Cell)) (cells : List (List String)) : List String :=
  (rows.zip cells).filterMap fun p =>
    p.1[place]?.bind fun value => if value.isNull then none else p.2[place]?

theorem getElem?_rowLiterals {ts : List NativeType} {place : Nat} {type : NativeType}
    (htype : ts[place]? = some type) {row : List Cell} {value : Cell}
    (hvalue : row[place]? = some value) :
    (rowLiterals ts row)[place]? = some (value.literal type.category literals) := by
  rw [rowLiterals, List.getElem?_zipWith', htype, hvalue]
  rfl

/-- **Both times the same literal is written** for a key. -/
theorem keyCells_eq {ts : List NativeType} {place : Nat} {type : NativeType}
    (htype : ts[place]? = some type) (rows : List (List Cell)) :
    distinctFrom [] (keyCells place rows (rows.map (rowLiterals ts))) =
      keyLiterals place type.category rows := by
  rw [keyLiterals, keyCells, List.filterMap_filterMap]
  congr 1
  induction rows with
  | nil => rfl
  | cons row rows ih =>
    rw [List.map_cons, List.zip_cons_cons, List.filterMap_cons, List.filterMap_cons, ih]
    cases hvalue : row[place]? with
    | none => rfl
    | some value =>
      simp only [Option.bind_some, getElem?_rowLiterals htype hvalue]

theorem keyCells_eq_nil_iff {cs : List Column} {place : Nat} (hplace : place < cs.length)
    {rows : List (List Cell)} (hwidth : ∀ row ∈ rows, row.length = cs.length)
    {cells : List (List String)}
    (hcells : List.Forall₂ (fun _ texts => texts.length = cs.length) rows cells) :
    keyCells place rows cells = [] ↔ ∀ row ∈ rows, row[place]? = some .null := by
  induction hcells with
  | nil => simp [keyCells]
  | @cons row texts rows cells htexts hcells ih =>
    obtain ⟨hrow, hrows⟩ := List.forall_mem_cons.mp hwidth
    have hvalue : row[place]? = some row[place] := List.getElem?_eq_getElem (hrow ▸ hplace)
    have htext : texts[place]? = some texts[place] := List.getElem?_eq_getElem (htexts ▸ hplace)
    rw [List.forall_mem_cons, ← ih hrows, keyCells, List.zip_cons_cons, List.filterMap_cons]
    dsimp only
    rw [hvalue, htext, Option.bind_some]
    cases row[place] with
    | null => simp [Cell.isNull, keyCells]
    | _ => simp [Cell.isNull]

/-! ### The statements -/

def insertText (table : String) (cs : List Column) (cells : List (List String)) : String :=
  "INSERT INTO " ++ quoting.quoteQualified table ++ " (" ++
    ", ".intercalate (cs.map fun c => quoting.quote c.columnName) ++ ") VALUES " ++
    ", ".intercalate (cells.map fun texts => "(" ++ ", ".intercalate texts ++ ")")

theorem insertRows_eq (table : String) (cs : List Column) (ts : List NativeType)
    (rows : List (List Cell)) :
    insertRows table cs ts rows = insertText table cs (rows.map (rowLiterals ts)) := by
  delta insertRows insertText
  rw [List.map_map]
  rfl

/-- Whatever the strategy, an insert of rows ends with the cells of its rows. -/
theorem exists_insertText {table : String} {cs : List Column} {rows : List (List Cell)}
    {strategy : DuplicateStrategy} {statements : List String} (hrows : rows ≠ [])
    (h : insert table cs rows strategy = .ok statements) :
    ∃ before cells, statements = before ++ [insertText table cs cells] ∧
      List.Forall₂ (fun row texts => CellsOf cs row (texts.map String.toList)) rows cells := by
  obtain ⟨-, hwidth, ts, hts, rfl⟩ := (insert_eq_ok_iff_of_ne_nil hrows).mp h
  refine ⟨preparation table cs ts rows strategy, rows.map (rowLiterals ts), ?_, ?_⟩
  · rw [insertRows_eq]
  · rw [List.forall₂_map_right_iff]
    exact List.forall₂_same.mpr fun row hrow => cellsOf_rowLiterals hts (hwidth row hrow)

/-- The text of a delete, in front of the list of its keys and with it. -/
theorem toList_deleteKeys (table : String) (key : Column) (keys : List String) :
    (deleteKeys table key keys).toList =
      ("ALTER TABLE " ++ quoting.quoteQualified table ++ " DELETE WHERE " ++
        quoting.quote key.columnName ++ " IN ").toList ++
        '(' :: ([',', ' '].intercalate (keys.map String.toList) ++ [')']) := by
  delta deleteKeys
  simp

theorem readRow?_keyLiterals {place : Nat} {category : Category} {rows : List (List Cell)}
    (hne : keyLiterals place category rows ≠ []) :
    readRow? ('(' :: ([',', ' '].intercalate
        ((keyLiterals place category rows).map String.toList) ++ [')'])) =
      some ((keyLiterals place category rows).map String.toList) := by
  refine readRow?_intercalate (mt List.map_eq_nil_iff.mp hne) (List.forall_mem_map.mpr ?_)
  intro s hs
  obtain ⟨-, -, value, -, -, rfl⟩ := mem_keyLiterals.mp hs
  exact pass?_literal category value 0

/-- **The keys that make room are those of the insert.** When an insert of rows succeeds
with one strategy, it does with each, and the last statement is the same insert of the
same cells. Only `update` has a statement in front of it, unless every value of the key
column is NULL: a delete whose list, read back, has the cells of the key column as they
stand in the insert, without those of NULL values and each once, in the order of first
occurrence. -/
theorem insert_keys {table : String} {cs : List Column} {rows : List (List Cell)}
    {strategy : DuplicateStrategy} {statements : List String} (hrows : rows ≠ [])
    (h : insert table cs rows strategy = .ok statements) :
    ∃ place key cells keys, IsKeyColumn cs place key ∧
      List.Forall₂ (fun row texts => CellsOf cs row (texts.map String.toList)) rows cells ∧
      FirstOccurrences (keyCells place rows cells) keys ∧ keys.Nodup ∧
      (keys = [] ↔ ∀ row ∈ rows, row[place]? = some .null) ∧
      insert table cs rows .none = .ok [insertText table cs cells] ∧
      insert table cs rows .ignore = .ok [insertText table cs cells] ∧
      insert table cs rows .update = .ok
        (if keys = [] then [insertText table cs cells]
          else [deleteKeys table key keys, insertText table cs cells]) ∧
      (keys ≠ [] → ∃ list, (deleteKeys table key keys).toList =
          ("ALTER TABLE " ++ quoting.quoteQualified table ++ " DELETE WHERE " ++
            quoting.quote key.columnName ++ " IN ").toList ++ list ∧
        readRow? list = some (keys.map String.toList)) := by
  obtain ⟨-, hcs, hwidth, ts, hts, -⟩ := (insert_eq_ok_iff.mp h).resolve_left fun h => hrows h.1
  obtain ⟨key, hkey⟩ := exists_isKeyColumn hcs
  obtain ⟨hplace, -⟩ := List.getElem?_eq_some_iff.mp hkey.1
  have hlen : cs.length = ts.length := (mapM_eq_ok_iff.mp hts).length_eq
  have htype : ts[keyIndex cs]? = some ts[keyIndex cs] := List.getElem?_eq_getElem (hlen ▸ hplace)
  -- the strategies differ only in what comes first
  have hinsert (strategy : DuplicateStrategy) : insert table cs rows strategy =
      .ok (preparation table cs ts rows strategy ++
        [insertText table cs (rows.map (rowLiterals ts))]) := by
    rw [← insertRows_eq]
    exact insert_eq_ok_iff.mpr (Or.inr ⟨hrows, hcs, hwidth, ts, hts, rfl⟩)
  have hcells : List.Forall₂ (fun row texts => CellsOf cs row (texts.map String.toList)) rows
      (rows.map (rowLiterals ts)) := by
    rw [List.forall₂_map_right_iff]
    exact List.forall₂_same.mpr fun row hrow => cellsOf_rowLiterals hts (hwidth row hrow)
  have hfirsts : FirstOccurrences (keyCells (keyIndex cs) rows (rows.map (rowLiterals ts)))
      (keyLiterals (keyIndex cs) ts[keyIndex cs].category rows) := by
    rw [← keyCells_eq htype]
    exact firstOccurrences_distinctFrom _
  refine ⟨keyIndex cs, key, rows.map (rowLiterals ts), _, hkey, hcells, hfirsts, hfirsts.nodup,
    hfirsts.eq_nil_iff.trans (keyCells_eq_nil_iff hplace hwidth (hcells.imp fun _ _ hrow => ?_)),
    hinsert .none, hinsert .ignore, ?_, fun hne => ?_⟩
  · rw [← hrow.1, List.length_map]
  · rw [hinsert, preparation, makeRoom_eq rfl hkey.1 htype]
    split <;> rfl
  · exact ⟨_, toList_deleteKeys table key _, readRow?_keyLiterals hne⟩

/-- A key that comes twice, and one that is NULL. -/
theorem insert_keys_of_null :
    ∃ place key cells keys, IsKeyColumn pair place key ∧
      FirstOccurrences (keyCells place
        [[.int32 7, .int32 2], [.null, .int32 3], [.int32 7, .null]] cells)
        keys ∧
      deleteKeys "t" key keys = "ALTER TABLE \x60t\x60 DELETE WHERE \x60a\x60 IN (7)" ∧
      insertText "t" pair cells =
        "INSERT INTO \x60t\x60 (\x60a\x60, \x60b\x60) VALUES (7, 2), (NULL, 3), (7, NULL)" := by
  have h : insert "t" pair
      [[.int32 7, .int32 2], [.null, .int32 3], [.int32 7, .null]] .update =
      .ok ["ALTER TABLE \x60t\x60 DELETE WHERE \x60a\x60 IN (7)",
        "INSERT INTO \x60t\x60 (\x60a\x60, \x60b\x60) VALUES (7, 2), (NULL, 3), (7, NULL)"] :=
    insert_eq_ok_iff.mpr (Or.inr ⟨by simp, by decide, by simp [pair], _, mapM_resolve_pair,
      by decide +kernel⟩)
  obtain ⟨place, key, cells, keys, hkey, -, hfirsts, -, -, -, -, hupdate, -⟩ :=
    insert_keys (by simp) h
  rw [h, Except.ok.injEq] at hupdate
  split at hupdate
  · exact absurd (congrArg List.length hupdate) (by simp)
  · obtain ⟨hdelete, hrest⟩ := List.cons_eq_cons.mp hupdate
    obtain ⟨hinsert, -⟩ := List.cons_eq_cons.mp hrest
    exact ⟨place, key, cells, keys, hkey, hfirsts, hdelete.symm, hinsert.symm⟩

end SqlDialect.ClickHouse
