import SqlDialect.Proofs.ClickHouse.Conversion
import SqlDialect.Proofs.Text.Lines
import SqlDialect.Proofs.Text.Numeral
/-!
# Decimals that are converted

A decimal is written as `Decimal` with its digits and its scale, or by a name that has the
digits, with the scale alone (`DecimalType`). `decimal?` reads such a text, and finds
every valid decimal in the way it is written (`decimal?_text`).

A conversion copies the parameters behind the name `Decimal`, whatever the name was
(`convertColumn_of_decimal`). There a single parameter is the number of digits. So
`convertColumns_keeps_iff`: the types that were written as `Decimal` keep their meaning,
and those with the digits in the name lose it, each of them.
-/

namespace SqlDialect.ClickHouse

/-- The numbers of bits that a decimal may have in its name. -/
inductive DecimalWidth
  | bits32
  | bits64
  | bits128
  | bits256
  deriving DecidableEq

namespace DecimalWidth

def name : DecimalWidth → String
  | bits32 => "Decimal32"
  | bits64 => "Decimal64"
  | bits128 => "Decimal128"
  | bits256 => "Decimal256"

/-- How many decimal digits fit in. -/
def digits : DecimalWidth → Nat
  | bits32 => 9
  | bits64 => 18
  | bits128 => 38
  | bits256 => 76

def ofName? (name : String) : Option DecimalWidth :=
  [bits32, bits64, bits128, bits256].find? (·.name == name)

theorem ofName?_eq_some_iff {name : String} {w : DecimalWidth} :
    ofName? name = some w ↔ w.name = name := by
  constructor
  · intro h
    have hname := List.find?_some (p := (DecimalWidth.name · == name)) h
    exact beq_iff_eq.mp hname
  · rintro rfl
    cases w <;> decide

theorem name_ne_decimal (w : DecimalWidth) : w.name ≠ "Decimal" := by
  cases w <;> decide

theorem digits_le (w : DecimalWidth) : w.digits ≤ 76 := by
  cases w <;> decide

end DecimalWidth

inductive DecimalType
  /-- `Decimal` with the number of digits, and of those after the point. -/
  | plain (precision : Nat) (scale : Option Nat)
  /-- A name that has the number of digits, with that of those after the point. -/
  | sized (width : DecimalWidth) (scale : Nat)
  deriving DecidableEq

namespace DecimalType

def name : DecimalType → String
  | plain _ _ => "Decimal"
  | sized w _ => w.name

/-- The numbers between the parentheses. -/
def parameters : DecimalType → List Nat
  | plain p none => [p]
  | plain p (some s) => [p, s]
  | sized _ s => [s]

def precision : DecimalType → Nat
  | plain p _ => p
  | sized w _ => w.digits

/-- How many digits stand after the point. -/
def scale : DecimalType → Nat
  | plain _ s => s.getD 0
  | sized _ s => s

/-- There are as many digits as may be, and no more of them stand after the point. -/
structure Valid (t : DecimalType) : Prop where
  pos : 0 < t.precision
  le : t.precision ≤ 76
  scale_le : t.scale ≤ t.precision

instance (t : DecimalType) : Decidable t.Valid :=
  decidable_of_iff (0 < t.precision ∧ t.precision ≤ 76 ∧ t.scale ≤ t.precision)
    ⟨fun h => ⟨h.1, h.2.1, h.2.2⟩, fun h => ⟨h.pos, h.le, h.scale_le⟩⟩

def text (t : DecimalType) : String :=
  t.name ++ "(" ++ ", ".intercalate (t.parameters.map toString) ++ ")"

def ofWritten? (name : String) : List Nat → Option DecimalType
  | [n] =>
    if name = "Decimal" then some (plain n none)
    else (DecimalWidth.ofName? name).map (sized · n)
  | [p, s] => if name = "Decimal" then some (plain p (some s)) else none
  | _ => none

theorem ofWritten?_eq_some_iff {name : String} {ns : List Nat} {t : DecimalType} :
    ofWritten? name ns = some t ↔ t.name = name ∧ t.parameters = ns := by
  constructor
  · intro h
    match ns with
    | [n] =>
      rw [ofWritten?] at h
      by_cases hname : name = "Decimal"
      · rw [if_pos hname] at h
        cases h
        exact ⟨hname.symm, rfl⟩
      · rw [if_neg hname] at h
        obtain ⟨w, hw, rfl⟩ := Option.map_eq_some_iff.mp h
        exact ⟨DecimalWidth.ofName?_eq_some_iff.mp hw, rfl⟩
    | [p, s] =>
      rw [ofWritten?] at h
      by_cases hname : name = "Decimal"
      · rw [if_pos hname] at h
        cases h
        exact ⟨hname.symm, rfl⟩
      · rw [if_neg hname] at h
        cases h
    | [] | _ :: _ :: _ :: _ => cases h
  · rintro ⟨rfl, rfl⟩
    match t with
    | plain p none => rfl
    | plain p (some s) => rfl
    | sized w s =>
      have hw := DecimalWidth.ofName?_eq_some_iff.mpr (rfl : w.name = w.name)
      exact (if_neg w.name_ne_decimal).trans (congrArg (Option.map (sized · s)) hw)

end DecimalType

/-- A number with perhaps blanks around it. -/
def number? (s : List Char) : Option Nat := Text.readDigits? (Text.trimChars s)

/-- The numbers between parentheses, with commas between them. -/
def numbers? (s : List Char) : Option (List Nat) :=
  (between? ['('] s).bind fun inner => (Text.splitOn ',' inner).mapM number?

/-- The valid decimal type that a text denotes. -/
def decimal? (type : String) : Option DecimalType := do
  let ns ← numbers? (TypeTable.parameters type).toList
  let t ← DecimalType.ofWritten? (TypeTable.base type) ns
  if t.Valid then some t else none

theorem decimal?_eq_some_iff {type : String} {t : DecimalType} :
    decimal? type = some t ↔ TypeTable.base type = t.name ∧
      numbers? (TypeTable.parameters type).toList = some t.parameters ∧ t.Valid := by
  simp only [decimal?, Option.bind_eq_bind, Option.bind_eq_some_iff,
    DecimalType.ofWritten?_eq_some_iff]
  constructor
  · rintro ⟨ns, hns, t', ⟨hname, rfl⟩, ht⟩
    by_cases hvalid : t'.Valid
    · rw [if_pos hvalid] at ht
      cases ht
      exact ⟨hname.symm, hns, hvalid⟩
    · rw [if_neg hvalid] at ht
      cases ht
  · rintro ⟨hname, hns, hvalid⟩
    exact ⟨_, hns, t, ⟨hname.symm, rfl⟩, if_pos hvalid⟩

/-! ### Reading what was written -/

theorem plainName_decimal : PlainName "Decimal" := ⟨by decide, by decide⟩

theorem DecimalWidth.plainName (w : DecimalWidth) : PlainName w.name := by
  cases w <;> exact ⟨by decide, by decide⟩

theorem DecimalType.plainName (t : DecimalType) : PlainName t.name := by
  cases t with
  | plain p s => exact plainName_decimal
  | sized w s => exact w.plainName

theorem number?_toDigits {front : List Char} (hfront : ∀ c ∈ front, Text.isBlank c = true)
    (n : Nat) : number? (front ++ Nat.toDigits 10 n) = some n := by
  have htrimmed := Text.trimmed_of_forall fun c hc =>
    Text.not_isBlank_of_isDigit (Text.allDigits_toDigits n c hc)
  rw [number?, Text.trimChars_append_of_blank hfront, htrimmed.trimChars_eq,
    Text.readDigits?_toDigits]

theorem comma_not_mem_number {front : List Char} (hfront : ∀ c ∈ front, Text.isBlank c = true)
    (n : Nat) : ',' ∉ front ++ Nat.toDigits 10 n := by
  intro h
  rcases List.mem_append.mp h with h | h
  · exact absurd (hfront _ h) (by decide)
  · exact absurd (Text.allDigits_toDigits n _ h) (by decide)

theorem mapM_number?_splitOn {front : List Char} (hfront : ∀ c ∈ front, Text.isBlank c = true)
    (n : Nat) (ns : List Nat) :
    (Text.splitOn ',' (front ++ [',', ' '].intercalate ((n :: ns).map (Nat.toDigits 10)))).mapM
      number? = some (n :: ns) := by
  -- every number behind the first has a blank in front, so the front is generalized
  induction ns generalizing front n with
  | nil =>
    rw [List.map_singleton, List.intercalate_singleton,
      Text.splitOn_of_not_mem (comma_not_mem_number hfront n), List.mapM_cons,
      number?_toDigits hfront n]
    rfl
  | cons m ns ih =>
    have hcut : front ++ [',', ' '].intercalate ((n :: m :: ns).map (Nat.toDigits 10)) =
        (front ++ Nat.toDigits 10 n) ++
          ',' :: ([' '] ++ [',', ' '].intercalate ((m :: ns).map (Nat.toDigits 10))) := by
      rw [List.map_cons, List.map_cons, List.intercalate_cons_cons, ← List.map_cons,
        List.append_assoc, List.append_assoc]
      rfl
    have hrest := @ih [' '] (List.forall_mem_singleton.mpr rfl) m
    rw [hcut, Text.splitOn_append_cons, Text.splitOn_of_not_mem (comma_not_mem_number hfront n),
      List.singleton_append, List.mapM_cons, number?_toDigits hfront n, hrest]
    rfl

theorem DecimalType.exists_parameters (t : DecimalType) : ∃ n ns, t.parameters = n :: ns := by
  match t with
  | plain p none => exact ⟨p, [], rfl⟩
  | plain p (some s) => exact ⟨p, [s], rfl⟩
  | sized w s => exact ⟨s, [], rfl⟩

/-- What stands behind the name. -/
theorem DecimalType.exists_text (t : DecimalType) : ∃ ps : String, t.text = t.name ++ ps ∧
    ps.toList = '(' :: [',', ' '].intercalate (t.parameters.map (Nat.toDigits 10)) ++ [')'] := by
  refine ⟨"(" ++ ", ".intercalate (t.parameters.map toString) ++ ")", ?_, ?_⟩
  · rw [text, String.append_assoc, String.append_assoc, String.append_assoc]
  · have hdigits : (t.parameters.map toString).map String.toList =
        t.parameters.map (Nat.toDigits 10) := by
      rw [List.map_map]
      refine List.map_congr_left fun n _ => ?_
      exact Nat.toList_repr
    rw [String.toList_append, String.toList_append, String.toList_intercalate, hdigits]
    rfl

theorem numbers?_eq {s : List Char} {n : Nat} {ns : List Nat}
    (hs : s = '(' :: [',', ' '].intercalate ((n :: ns).map (Nat.toDigits 10)) ++ [')']) :
    numbers? s = some (n :: ns) := by
  have hinner : between? ['('] s =
      some ([',', ' '].intercalate ((n :: ns).map (Nat.toDigits 10))) :=
    between?_eq_some_iff.mpr hs
  have hns := @mapM_number?_splitOn [] (by simp) n ns
  rw [numbers?, hinner]
  exact hns

/-- **Every valid decimal is read as it was written.** -/
theorem decimal?_text {t : DecimalType} (ht : t.Valid) : decimal? t.text = some t := by
  obtain ⟨ps, htext, hps⟩ := t.exists_text
  obtain ⟨n, ns, hns⟩ := t.exists_parameters
  have hparen : ∀ c ∈ ps.toList.head?, c = '(' := by
    rw [hps]
    rintro c ⟨⟩
    rfl
  rw [hns] at hps
  rw [decimal?_eq_some_iff, htext, base_append t.plainName hparen,
    parameters_append t.plainName hparen, numbers?_eq hps, hns]
  exact ⟨rfl, rfl, ht⟩

/-! ### What a conversion makes of it -/

namespace DecimalType

/-- The same parameters behind the name `Decimal`: a scale alone is taken for the number of
digits, and no decimal has none. -/
def converted : DecimalType → Option DecimalType
  | plain p s => some (plain p s)
  | sized _ s => if s = 0 then none else some (plain s none)

/-- The text denotes a decimal with as many digits after the point, and no fewer digits. -/
def Keeps (t : DecimalType) (type : String) : Prop :=
  ∃ t', decimal? type = some t' ∧ t'.scale = t.scale ∧ t.precision ≤ t'.precision

theorem Valid.plain_iff {w : DecimalWidth} {s : Nat} (ht : (sized w s).Valid) :
    (plain s none).Valid ↔ s ≠ 0 := by
  have hscale : s ≤ w.digits := ht.scale_le
  constructor
  · intro h
    exact Nat.pos_iff_ne_zero.mp h.pos
  · intro hs
    exact ⟨Nat.pos_of_ne_zero hs, Nat.le_trans hscale w.digits_le, Nat.zero_le s⟩

theorem keeps_iff {t : DecimalType} {type : String} (htype : decimal? type = t.converted) :
    t.Keeps type ↔ ∃ p s, t = plain p s := by
  rw [Keeps, htype]
  cases t with
  | plain p s => exact ⟨fun _ => ⟨p, s, rfl⟩, fun _ => ⟨_, rfl, rfl, Nat.le_refl p⟩⟩
  | sized w s =>
    constructor
    · rintro ⟨t', ht', hscale, -⟩
      -- the scale is zero behind the name `Decimal`, and with no scale there are no digits
      rw [converted] at ht'
      by_cases hs : s = 0
      · rw [if_pos hs] at ht'
        cases ht'
      · rw [if_neg hs] at ht'
        cases ht'
        exact absurd hscale.symm hs
    · rintro ⟨p, s', h⟩
      cases h

end DecimalType

theorem get?_name (t : DecimalType) :
    ∃ entry, types.get? t.name = some entry ∧ entry.kind = .decimal := by
  cases t with
  | plain p s => exact ⟨_, rfl, rfl⟩
  | sized w s => cases w <;> exact ⟨_, rfl, rfl⟩

/-- **A decimal is converted** to the name `Decimal` with its own parameters. -/
theorem convertColumn_of_decimal {c : Column} {t : DecimalType}
    (hc : decimal? c.dataType = some t) : convertColumn types placement c =
      .ok { c with dataType := "Decimal" ++ TypeTable.parameters c.dataType } := by
  obtain ⟨hname, -, -⟩ := decimal?_eq_some_iff.mp hc
  obtain ⟨entry, hentry, hkind⟩ := get?_name t
  have hresolve : types.resolve c.dataType = .ok entry := by
    rw [TypeTable.resolve, hname, hentry]
  rw [convertColumn, hresolve]
  show Except.ok _ = _
  rw [Placement.typeText, hkind]
  rfl

theorem decimal?_converted {type : String} {t : DecimalType} (h : decimal? type = some t) :
    decimal? ("Decimal" ++ TypeTable.parameters type) = t.converted := by
  obtain ⟨-, hns, ht⟩ := decimal?_eq_some_iff.mp h
  have hparen := head?_parameters type
  rw [decimal?, base_append plainName_decimal hparen, parameters_append plainName_decimal hparen,
    hns]
  match t, ht with
  | .plain p none, ht => exact if_pos ht
  | .plain p (some s), ht => exact if_pos ht
  | .sized w s, ht =>
    refine Eq.trans (b := if (DecimalType.plain s none).Valid then _ else none) rfl ?_
    simp only [ht.plain_iff, DecimalType.converted, ite_not]

/-- **Which decimals keep their meaning.** Columns whose types are decimals are converted, and
nothing but the type of each is changed. The new type has the same scale and no fewer digits
exactly if the old one was written as `Decimal`. Of a name with digits the scale becomes the
number of digits, with none of them after the point; a scale of zero makes no decimal. -/
theorem convertColumns_keeps_iff {cs : List Column}
    (hcs : ∀ c ∈ cs, ∃ t, decimal? c.dataType = some t) :
    ∃ cs', convertColumns types placement cs = .ok cs' ∧
      List.Forall₂ (fun c c' => c' = { c with dataType := c'.dataType } ∧
        ∀ t, decimal? c.dataType = some t → decimal? c'.dataType = t.converted ∧
          (t.Keeps c'.dataType ↔ ∃ p s, t = .plain p s)) cs cs' := by
  have hall : ∀ c ∈ cs, ∃ c', convertColumn types placement c = .ok c' := by
    intro c hc
    obtain ⟨t, ht⟩ := hcs c hc
    exact ⟨_, convertColumn_of_decimal ht⟩
  obtain ⟨cs', hcs'⟩ := exists_mapM_eq_ok hall
  refine ⟨cs', hcs', ?_⟩
  refine (mapM_eq_ok_iff.mp hcs').imp ?_
  intro c c' hc
  refine ⟨eq_of_convertColumn hc, ?_⟩
  intro t ht
  rw [convertColumn_of_decimal ht] at hc
  cases hc
  have hconverted := decimal?_converted ht
  exact ⟨hconverted, DecimalType.keeps_iff hconverted⟩

/-- A decimal with a scale. -/
theorem convertColumns_keeps_iff_of_decimal :
    decimal? "Decimal(18, 4)" = some (.plain 18 (some 4)) ∧
      ∃ type, convertColumns types placement
          [⟨"t", "a", "Decimal(18, 4)", none, true, false, none, false⟩] =
        .ok [⟨"t", "a", type, none, true, false, none, false⟩] ∧
      (DecimalType.plain 18 (some 4)).Keeps type := by
  have hread : decimal? "Decimal(18, 4)" = some (.plain 18 (some 4)) := by
    decide +kernel
  have hcolumn : ∀ c ∈ [(⟨"t", "a", "Decimal(18, 4)", none, true, false, none, false⟩ : Column)],
      ∃ t, decimal? c.dataType = some t := by
    rw [List.forall_mem_singleton]
    exact ⟨_, hread⟩
  obtain ⟨cs', hcs', hsteps⟩ := convertColumns_keeps_iff hcolumn
  obtain ⟨c', rest, ⟨hc', hkeeps⟩, hrest, rfl⟩ := List.forall₂_cons_left_iff.mp hsteps
  obtain rfl := List.forall₂_nil_left_iff.mp hrest
  rw [hc'] at hcs'
  exact ⟨hread, c'.dataType, hcs', (hkeeps _ hread).2.mpr ⟨_, _, rfl⟩⟩

/-- **A decimal that loses its scale.** Of nine digits, four of them after the point, four are left
and none of them after the point. -/
theorem scale_lost :
    (DecimalType.sized .bits32 4).Valid ∧ (DecimalType.sized .bits32 4).text = "Decimal32(4)" ∧
      convertColumns types placement
          [⟨"t", "a", "Decimal32(4)", none, true, false, none, false⟩] =
        .ok [⟨"t", "a", "Decimal(4)", none, true, false, none, false⟩] ∧
      decimal? "Decimal(4)" = some (.plain 4 none) ∧
      ¬(DecimalType.sized .bits32 4).Keeps "Decimal(4)" := by
  have hread : decimal? "Decimal(4)" = some (.plain 4 none) := by
    decide +kernel
  refine ⟨by decide, by decide, by decide +kernel, hread, ?_⟩
  rintro ⟨t', ht', hscale, -⟩
  rw [hread] at ht'
  cases ht'
  exact absurd hscale (by decide)

end SqlDialect.ClickHouse
