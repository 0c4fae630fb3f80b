import SqlDialect.Proofs.ClickHouse.Definition
import SqlDialect.Proofs.ClickHouse.Question
import SqlDialect.Proofs.Text.Lines
import SqlDialect.Proofs.Text.Trim
/-!
# The first part of a declared key

The catalog reports the primary key of a table as a list of expressions with a comma
between them. A `KeyExpression` may hold commas itself, within parentheses and quotes,
and a reader who minds these finds the expressions again (`items_keyText`).

`primaryKey_eq_first_iff`: what is found for a declared key is its text up to the first
comma, wherever that one stands. So it is the first expression exactly if there is no
comma in it; of `f(a, b)` it is `f(a`. The columns of the table are never asked for.
-/

namespace SqlDialect.ClickHouse.Catalog

open Text (Trimmed trimChars splitOn isBlank)

variable {σ : Type}

/-- An expression in a key: not empty, with no blanks around it, its parentheses and quotes closed,
and its commas within them. -/
structure KeyExpression (e : List Char) : Prop where
  ne_nil : e ≠ []
  trimmed : Trimmed e
  closes : definitionQuotes.pass? [',', ')', ']'] (.outside 0) e = some (.outside 0)

instance (e : List Char) : Decidable (KeyExpression e) :=
  decidable_of_iff
    (e ≠ [] ∧ Trimmed e ∧
      definitionQuotes.pass? [',', ')', ']'] (.outside 0) e = some (.outside 0))
    ⟨fun h => ⟨h.1, h.2.1, h.2.2⟩, fun h => ⟨h.ne_nil, h.trimmed, h.closes⟩⟩

/-- A key as the catalog reports it. -/
def keyText (es : List String) : String := ", ".intercalate es

/-- The result reports this text as the primary key. -/
def Reports (result : ResultSet) (key : String) : Prop :=
  ∃ row, result.rows.head? = some row ∧ row.decodeString? "primary_key" = .ok (some key)

theorem toList_keyText (es : List String) :
    (keyText es).toList = [',', ' '].intercalate (es.map String.toList) := by
  have hcomma : ", ".toList = [',', ' '] := by decide
  rw [keyText, String.toList_intercalate, hcomma]

/-- **The expressions of a key are told apart** by who minds quotes and parentheses. -/
theorem items_keyText {es : List String} (hne : es ≠ [])
    (hes : ∀ e ∈ es, KeyExpression e.toList) :
    definitionQuotes.items (keyText es).toList = es.map String.toList := by
  rw [toList_keyText]
  refine Text.Quotes.items_intercalate (by decide) (mt List.map_eq_nil_iff.mp hne) ?_
  rw [List.forall_mem_map]
  intro e he
  exact Text.Quotes.pass?_mono (by simp) (hes e he).closes

/-! ### Up to the first comma -/

/-- The text in front of the first comma. -/
def upToComma (s : List Char) : List Char := s.takeWhile (· != ',')

theorem comma_not_mem_upToComma (s : List Char) : ',' ∉ upToComma s := by
  intro h
  have hne := List.mem_takeWhile_imp h
  exact absurd hne (by decide)

theorem upToComma_eq_self {s : List Char} (hs : ',' ∉ s) : upToComma s = s := by
  refine List.takeWhile_eq_self_iff.mpr ?_
  intro c hc
  rw [bne_iff_ne]
  rintro rfl
  exact hs hc

theorem upToComma_append_comma (s t : List Char) : upToComma (s ++ ',' :: t) = upToComma s := by
  induction s with
  | nil => simp [upToComma]
  | cons c s ih =>
    unfold upToComma at ih ⊢
    by_cases hc : c = ','
    · simp [hc]
    · rw [List.cons_append, List.takeWhile_cons, List.takeWhile_cons, ih]

theorem exists_splitOn_comma (s : List Char) :
    ∃ pieces, splitOn ',' s = upToComma s :: pieces := by
  induction s with
  | nil => exact ⟨[], rfl⟩
  | cons c s ih =>
    obtain ⟨pieces, hs⟩ := ih
    by_cases hc : c = ','
    · subst hc
      refine ⟨splitOn ',' s, ?_⟩
      rw [Text.splitOn_cons_self]
      simp [upToComma]
    · refine ⟨pieces, ?_⟩
      rw [Text.splitOn_cons_of_ne hc hs]
      simp [upToComma, hc]

theorem upToComma_keyText (e : String) (es : List String) :
    upToComma (keyText (e :: es)).toList = upToComma e.toList := by
  rw [toList_keyText, List.map_cons]
  cases es with
  | nil => rw [List.map_nil, List.intercalate_singleton]
  | cons d es =>
    rw [List.map_cons, List.intercalate_cons_cons, List.append_assoc]
    exact upToComma_append_comma _ _

/-! ### Key expressions -/

theorem KeyExpression.exists_cons {e : List Char} (he : KeyExpression e) :
    ∃ c s, e = c :: s ∧ c ≠ ',' ∧ isBlank c = false := by
  obtain ⟨c, s, rfl⟩ := List.exists_cons_of_ne_nil he.ne_nil
  refine ⟨c, s, rfl, ?_, he.trimmed.head c rfl⟩
  rintro rfl
  -- a comma in front would stand outside all parentheses
  have hstop := (Text.Quotes.pass?_cons_eq_some.mp he.closes).1
  exact hstop ⟨rfl, List.mem_cons_self ..⟩

theorem KeyExpression.trimChars_upToComma_ne_nil {e : List Char} (he : KeyExpression e) :
    trimChars (upToComma e) ≠ [] := by
  obtain ⟨c, s, rfl, hcomma, hblank⟩ := he.exists_cons
  have hkept : upToComma (c :: s) = c :: upToComma s := by
    rw [upToComma, List.takeWhile_cons, if_pos (bne_iff_ne.mpr hcomma), upToComma]
  intro hnil
  have hall := Text.trimChars_eq_nil_iff.mp hnil c (by rw [hkept]; exact List.mem_cons_self ..)
  rw [hblank] at hall
  cases hall

theorem KeyExpression.trimChars_upToComma_eq_iff {e : List Char} (he : KeyExpression e) :
    trimChars (upToComma e) = e ↔ ',' ∉ e := by
  constructor
  · intro h hcomma
    rw [← h] at hcomma
    exact comma_not_mem_upToComma e (Text.mem_of_mem_trimChars hcomma)
  · intro h
    rw [upToComma_eq_self h]
    exact he.trimmed.trimChars_eq

theorem firstKey?_keyText {e : String} (he : KeyExpression e.toList) (es : List String) :
    firstKey? (keyText (e :: es)) = some (String.ofList (trimChars (upToComma e.toList))) := by
  obtain ⟨pieces, hpieces⟩ := exists_splitOn_comma (keyText (e :: es)).toList
  have hkept : (!(trimChars (upToComma e.toList)).isEmpty) = true := by
    have hne := he.trimChars_upToComma_ne_nil
    simpa using hne
  rw [firstKey?, hpieces, upToComma_keyText, List.map_cons, List.find?_cons, hkept,
    Option.map_some]

theorem declaredKey?_of_reports {result : ResultSet} {key : String} (h : Reports result key) :
    declaredKey? result = .ok (firstKey? key) := by
  obtain ⟨row, hrow, hkey⟩ := h
  rw [declaredKey?, hrow]
  show (row.decodeString? "primary_key").map _ = _
  rw [hkey]
  rfl

theorem primaryKey_talks (c : Connection σ) {s s' : σ} {table key : String} {result : ResultSet}
    (hquery : c.query primaryKeyQuery [.string c.database, .string table] s = (.ok result, s'))
    (hkey : declaredKey? result = .ok (some key)) :
    Action.Talks (primaryKey c table) (primaryKey c.traced table) s
      [.query primaryKeyQuery [.string c.database, .string table] (.ok result)] (.ok (some key))
      s' := by
  show Action.Talks _ _ s ([_] ++ []) _ s'
  refine (Connection.talks_query hquery).bind ?_
  rw [hkey]
  exact Action.records_ofExcept (.ok (some key)) s'

/-- **What is found of a declared key.** If the catalog reports the expressions of a key with commas
between them, the key is found with this one query. What is found is the first expression
up to its first comma, without blanks; and that is the first expression exactly if there is no
comma in it. -/
theorem primaryKey_eq_first_iff (c : Connection σ) {s s' : σ} (table : String) {result : ResultSet}
    (hquery : c.query primaryKeyQuery [.string c.database, .string table] s = (.ok result, s'))
    {e : String} {es : List String} (he : ∀ d ∈ e :: es, KeyExpression d.toList)
    (hreports : Reports result (keyText (e :: es))) :
    ∃ key, primaryKey c table s = (.ok (some key), s') ∧
      primaryKey c.traced table ([], s) = (.ok (some key),
        ([.query primaryKeyQuery [.string c.database, .string table] (.ok result)], s')) ∧
      key.toList = trimChars (upToComma e.toList) ∧ (key = e ↔ ',' ∉ e.toList) := by
  have hfirst : KeyExpression e.toList := he e (List.mem_cons_self ..)
  have hkey := declaredKey?_of_reports hreports
  rw [firstKey?_keyText hfirst es] at hkey
  have htalks := primaryKey_talks c hquery hkey
  refine ⟨_, htalks.ends, htalks.tells [], String.toList_ofList, ?_⟩
  rw [← String.toList_inj, String.toList_ofList]
  exact hfirst.trimChars_upToComma_eq_iff

/-- A key of an expression without a comma and one with. -/
theorem primaryKey_eq_first_iff_of_call :
    (∀ d ∈ ["toDate(ts)", "f(a, b)"], KeyExpression d.toList) ∧
      (primaryKey (holding "primary_key" (keyText ["toDate(ts)", "f(a, b)"])) "t" false).1 =
        .ok (some "toDate(ts)") := by
  have hkeys : ∀ d ∈ ["toDate(ts)", "f(a, b)"], KeyExpression d.toList := by
    decide +kernel
  obtain ⟨key, hkey, -, -, hfirst⟩ :=
    primaryKey_eq_first_iff (holding "primary_key" (keyText ["toDate(ts)", "f(a, b)"]))
      (s := false) "t" rfl hkeys ⟨_, rfl, rfl⟩
  refine ⟨hkeys, ?_⟩
  rw [hkey, hfirst.mpr (by decide)]

/-- **A key cut at a comma** that stands between the parentheses of its first expression. -/
theorem key_cut_at_comma :
    (∀ d ∈ ["cityHash64(a, b)", "c"], KeyExpression d.toList) ∧
      keyText ["cityHash64(a, b)", "c"] = "cityHash64(a, b), c" ∧
      (primaryKey (holding "primary_key" "cityHash64(a, b), c") "t" false).1 =
        .ok (some "cityHash64(a") ∧
      "cityHash64(a" ≠ "cityHash64(a, b)" := by
  refine ⟨?_, ?_, ?_, ?_⟩
  · decide +kernel
  · decide +kernel
  · decide +kernel
  · decide

end SqlDialect.ClickHouse.Catalog
