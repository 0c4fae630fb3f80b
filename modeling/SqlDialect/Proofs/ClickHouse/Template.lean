import Mathlib.Data.List.Count
import SqlDialect.ClickHouse.Template
/-!
# Templates and their places

A text whose question marks are doubled is a template without places, and the statement that it
makes is the text as it was (`prepare_nil`). That is not a matter of one reader: it holds of
every way to read a template from left to right in which two question marks stand for one
(`LeftToRight.read_escapeHoles`), and `pieces` is such a way (`leftToRight_pieces`).

Parameters fill places one by one, and what they fill in has no place. So a statement comes of a
template exactly if it has no place for fields and as many other places as there are parameters
(`sent?_isSome_iff`). An array among the parameters is an error in any case
(`bindParams_eq_error_iff`).
-/

namespace SqlDialect.ClickHouse

/-! ### Reading from left to right -/

/-- A place of a template, for a parameter or for fields. -/
def Piece.IsPlace (p : Piece) : Prop := p = .hole ∨ p = .fields

/-- A way to read a template from left to right: two question marks stand for one, a question
mark alone begins a place, and every other character is itself. -/
structure LeftToRight (read : List Char → List Piece) : Prop where
  nil : read [] = []
  pair (s : List Char) : read ('?' :: '?' :: s) = .char '?' :: read s
  lone (s : List Char) : s.head? ≠ some '?' →
    ∃ place ps, read ('?' :: s) = place :: ps ∧ place.IsPlace
  other (c : Char) (s : List Char) : c ≠ '?' → read (c :: s) = .char c :: read s

theorem escapeHoles_mark (s : List Char) :
    escapeHoles ('?' :: s) = '?' :: '?' :: escapeHoles s := rfl

theorem escapeHoles_other {c : Char} (hc : c ≠ '?') (s : List Char) :
    escapeHoles (c :: s) = c :: escapeHoles s := by
  rw [escapeHoles, List.flatMap_cons, if_neg hc]
  rfl

/-- **Doubled question marks are read as what they were**, however many stand in a row. -/
theorem LeftToRight.read_escapeHoles {read : List Char → List Piece} (h : LeftToRight read)
    (s : List Char) : read (escapeHoles s) = s.map .char := by
  induction s with
  | nil => exact h.nil
  | cons c s ih =>
    by_cases hc : c = '?'
    · subst hc
      rw [escapeHoles_mark, h.pair, ih, List.map_cons]
    · rw [escapeHoles_other hc, h.other c _ hc, ih, List.map_cons]

theorem pieces_lone {s : List Char} (h : s.head? ≠ some '?') :
    ∃ place ps, pieces ('?' :: s) = place :: ps ∧ place.IsPlace := by
  unfold pieces
  split
  · rename_i heq
    cases heq
  · rename_i heq
    obtain ⟨-, rfl⟩ := List.cons_eq_cons.mp heq
    exact absurd rfl h
  · exact ⟨.fields, _, rfl, Or.inr rfl⟩
  · exact ⟨.hole, _, rfl, Or.inl rfl⟩
  · rename_i hmark heq
    exact absurd (List.cons_eq_cons.mp heq).1.symm hmark

theorem leftToRight_pieces : LeftToRight pieces where
  nil := rfl
  pair s := by rw [pieces]
  lone s h := pieces_lone h
  other c s hc := by
    rw [pieces]
    all_goals
      intros
      exact hc ‹_›

/-! ### Statements without parameters -/

theorem not_isPlace_of_mem_map {s : List Char} {p : Piece} (hp : p ∈ s.map Piece.char) :
    ¬p.IsPlace := by
  obtain ⟨c, -, rfl⟩ := List.mem_map.mp hp
  rintro (h | h) <;> cases h

theorem flatMap_chars_map (s : List Char) : (s.map Piece.char).flatMap Piece.chars = s := by
  induction s with
  | nil => rfl
  | cons c s ih =>
    rw [List.map_cons, List.flatMap_cons, ih]
    rfl

theorem firstHole?_eq_none_iff {ps : List Piece} :
    Template.firstHole? ps = none ↔ ∀ p ∈ ps, ¬p.IsPlace := by
  simp [Template.firstHole?, Piece.IsPlace]

theorem statement?_of_no_place {ps : List Piece} (h : ∀ p ∈ ps, ¬p.IsPlace) :
    (Template.pieces ps).statement? = .ok (String.ofList (ps.flatMap Piece.chars)) := by
  rw [Template.statement?, firstHole?_eq_none_iff.mpr h]

/-- The template of a statement without parameters is the text of the statement. -/
theorem prepare_nil (sql : String) :
    prepare sql [] = .ok (.pieces (sql.toList.map .char)) := by
  have hread : pieces (escapePlaceholders sql).toList = sql.toList.map .char := by
    rw [escapePlaceholders, String.toList_ofList]
    exact leftToRight_pieces.read_escapeHoles sql.toList
  rw [prepare, if_pos List.isEmpty_nil, Template.ofText, hread]

theorem statement?_text (sql : String) :
    (Template.pieces (sql.toList.map .char)).statement? = .ok sql := by
  rw [statement?_of_no_place fun p hp => not_isPlace_of_mem_map hp, flatMap_chars_map,
    String.ofList_toList]

/-! ### Filling places -/

def IsArray (c : Cell) : Prop := ∃ items, c = .array items

theorem param?_eq_none_iff {c : Cell} : param? c = none ↔ IsArray c := by
  cases c with
  | array items => exact iff_of_true rfl ⟨items, rfl⟩
  | _ =>
    refine iff_of_false ?_ (by rintro ⟨items, h⟩; cases h)
    unfold param?
    simp [paramText?]

/-- Filling a place uses up one place for a parameter and nothing else. -/
theorem fill_eq_some {s : List Char} {ps ps' : List Piece} (h : fill s ps = some ps') :
    ps.count .hole = ps'.count .hole + 1 ∧ (.fields ∈ ps' ↔ .fields ∈ ps) := by
  have hcount : (s.map Piece.char).count .hole = 0 := by
    rw [List.count_eq_zero]
    intro hmem
    exact not_isPlace_of_mem_map hmem (Or.inl rfl)
  have hfields : Piece.fields ∉ s.map Piece.char := by
    intro hmem
    exact not_isPlace_of_mem_map hmem (Or.inr rfl)
  induction ps generalizing ps' with
  | nil => cases h
  | cons p ps ih =>
    by_cases hp : p = .hole
    · subst hp
      obtain rfl := Option.some.inj h
      rw [List.count_cons_self, List.count_append, hcount, List.mem_append]
      refine ⟨by omega, ?_⟩
      simp [hfields]
    · have hstep : fill s (p :: ps) = (fill s ps).map (p :: ·) := by
        cases p with
        | hole => exact absurd rfl hp
        | char c => rfl
        | fields => rfl
      rw [hstep, Option.map_eq_some_iff] at h
      obtain ⟨qs, hqs, rfl⟩ := h
      obtain ⟨hholes, hsame⟩ := ih hqs
      rw [List.count_cons_of_ne hp, List.count_cons_of_ne hp, List.mem_cons, List.mem_cons, hsame]
      exact ⟨hholes, Iff.rfl⟩

theorem fill_eq_none_iff {s : List Char} {ps : List Piece} :
    fill s ps = none ↔ ps.count .hole = 0 := by
  induction ps with
  | nil => exact iff_of_true rfl rfl
  | cons p ps ih =>
    cases p with
    | hole => simp [fill]
    | char c => simp [fill, ih]
    | fields => simp [fill, ih]

/-- A template that has failed, or one that is left with places, makes no statement. -/
theorem statement?_pieces_eq_ok_iff {ps : List Piece} :
    (∃ sql, (Template.pieces ps).statement? = .ok sql) ↔
      .fields ∉ ps ∧ ps.count .hole = 0 := by
  have hplaces : (∀ p ∈ ps, ¬p.IsPlace) ↔ .fields ∉ ps ∧ ps.count .hole = 0 := by
    rw [List.count_eq_zero]
    constructor
    · intro h
      exact ⟨fun hmem => h _ hmem (Or.inr rfl), fun hmem => h _ hmem (Or.inl rfl)⟩
    · rintro ⟨hfields, hholes⟩ p hp (rfl | rfl)
      · exact hholes hp
      · exact hfields hp
  rw [← hplaces]
  constructor
  · rintro ⟨sql, h⟩
    rw [← firstHole?_eq_none_iff]
    rw [Template.statement?] at h
    cases hfirst : Template.firstHole? ps with
    | none => rfl
    | some p =>
      rw [hfirst] at h
      cases p <;> cases h
  · intro h
    exact ⟨_, statement?_of_no_place h⟩

theorem bindParams_failed {reason : String} {params : List Cell} {t : Template}
    (h : bindParams (.failed reason) params = .ok t) : t = .failed reason := by
  induction params with
  | nil => exact (Except.ok.inj h).symm
  | cons c params ih =>
    rw [bindParams] at h
    cases hparam : param? c with
    | none =>
      rw [hparam] at h
      cases h
    | some s =>
      rw [hparam] at h
      exact ih h

/-- **Parameters fit a template** if they fill all its places and none is left over. -/
theorem statement?_bindParams {ps : List Piece} {params : List Cell} {t : Template}
    (h : bindParams (.pieces ps) params = .ok t) :
    (∃ sql, t.statement? = .ok sql) ↔ .fields ∉ ps ∧ ps.count .hole = params.length := by
  induction params generalizing ps with
  | nil =>
    obtain rfl := Except.ok.inj h
    exact statement?_pieces_eq_ok_iff
  | cons c params ih =>
    rw [bindParams] at h
    cases hparam : param? c with
    | none =>
      rw [hparam] at h
      cases h
    | some s =>
      rw [hparam] at h
      dsimp only [Template.bind] at h
      cases hfill : fill s ps with
      | none =>
        rw [hfill] at h
        obtain rfl := bindParams_failed h
        have hzero := fill_eq_none_iff.mp hfill
        refine iff_of_false (by rintro ⟨sql, hsql⟩; cases hsql) ?_
        rintro ⟨-, hlength⟩
        rw [List.length_cons] at hlength
        omega
      | some ps' =>
        rw [hfill] at h
        obtain ⟨hholes, hfields⟩ := fill_eq_some hfill
        rw [ih h, hfields, hholes, List.length_cons, Nat.add_right_cancel_iff]

/-- **An array is no parameter**, whatever the template and the other parameters. -/
theorem bindParams_eq_error_iff {t : Template} {params : List Cell} {e : DbError} :
    bindParams t params = .error e ↔ e = .arrayParameter ∧ ∃ c ∈ params, IsArray c := by
  induction params generalizing t with
  | nil => simp [bindParams]
  | cons c params ih =>
    rw [bindParams]
    cases hparam : param? c with
    | none =>
      have harray : ∃ d ∈ c :: params, IsArray d :=
        ⟨c, List.mem_cons_self .., param?_eq_none_iff.mp hparam⟩
      dsimp only
      rw [and_iff_left harray, Except.error.injEq, eq_comm]
    | some s =>
      have harray : ¬IsArray c := by
        rw [← param?_eq_none_iff, hparam]
        simp
      dsimp only
      rw [ih]
      simp [harray]

theorem prepare_eq_error_iff {sql : String} {params : List Cell} {e : DbError} :
    prepare sql params = .error e ↔ e = .arrayParameter ∧ ∃ c ∈ params, IsArray c := by
  cases params with
  | nil => simp [prepare_nil]
  | cons c params =>
    rw [prepare, if_neg (by simp)]
    exact bindParams_eq_error_iff

/-! ### Which statements are sent -/

/-- The text that is sent for a statement with parameters, if any is. -/
def sent? (sql : String) (params : List Cell) : Option String :=
  match prepare sql params with
  | .ok t => t.statement?.toOption
  | .error _ => none

/-- There are no parameters, or none is an array and they fill all places of the statement. -/
def Fit (sql : String) (params : List Cell) : Prop :=
  params = [] ∨ (∀ c ∈ params, ¬IsArray c) ∧ .fields ∉ pieces sql.toList ∧
    (pieces sql.toList).count .hole = params.length

theorem sent?_nil (sql : String) : sent? sql [] = some sql := by
  rw [sent?, prepare_nil]
  dsimp only
  rw [statement?_text]
  rfl

theorem toOption_isSome_iff {ε α : Type} {x : Except ε α} :
    x.toOption.isSome = true ↔ ∃ a, x = .ok a := by
  cases x <;> simp [Except.toOption]

/-- **A statement is sent exactly if its parameters fit it.** -/
theorem sent?_isSome_iff {sql : String} {params : List Cell} :
    (sent? sql params).isSome = true ↔ Fit sql params := by
  by_cases hnil : params = []
  · subst hnil
    exact iff_of_true (by rw [sent?_nil]; rfl) (Or.inl rfl)
  rw [Fit, or_iff_right hnil, sent?]
  cases hprepare : prepare sql params with
  | error e =>
    obtain ⟨-, c, hc, harray⟩ := prepare_eq_error_iff.mp hprepare
    exact iff_of_false (by simp) fun h => h.1 c hc harray
  | ok t =>
    have hall : ∀ c ∈ params, ¬IsArray c := by
      intro c hc harray
      rw [prepare_eq_error_iff.mpr ⟨rfl, c, hc, harray⟩] at hprepare
      cases hprepare
    have hbind : bindParams (.pieces (pieces sql.toList)) params = .ok t := by
      rw [prepare, if_neg (by simpa using hnil)] at hprepare
      exact hprepare
    dsimp only
    rw [toOption_isSome_iff, statement?_bindParams hbind]
    exact (and_iff_right hall).symm

end SqlDialect.ClickHouse
