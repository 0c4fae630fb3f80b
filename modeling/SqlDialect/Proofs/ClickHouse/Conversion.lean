import SqlDialect.ClickHouse.Types
import SqlDialect.Proofs.ClickHouse.TypeName
import SqlDialect.Proofs.Traversal
/-!
# Columns that are converted

`PlacedAs` says what a conversion makes of a column: nothing but its type is changed, and the
parameters of the type go along or are dropped. `convertColumns_places`: that is what becomes
of each column of a list, unless the type of one is unknown. Then the first of these is
reported and nothing else comes of it.

A table and a placement are `Stable` if each type on which something is placed is a type of
the table and stays where it is. A column that was converted is then found again with its own
type, so converting it once more changes nothing (`Stable.convertColumn_eq`). ClickHouse's
are (`stable_placement`).
-/

namespace SqlDialect.ClickHouse

/-- The parameters of a type go along: there are some, and both types stand for the same
kind, a text of fixed width or a decimal. -/
structure Carries (source placed : NativeType) (type : String) : Prop where
  some : '(' ∈ type.toList
  same : placed.kind = source.kind
  fixed : source.kind = .char ∨ source.kind = .decimal

/-- The column that a conversion makes of one whose type stands for this entry. -/
structure PlacedAs (target : Placement) (entry : NativeType) (c c' : Column) : Prop where
  frame : c' = { c with dataType := c'.dataType }
  carried : Carries entry (target entry.kind) c.dataType → ∃ front back,
    c.dataType.toList = front ++ '(' :: back ∧ '(' ∉ front ∧
      c'.dataType.toList = (target entry.kind).name.toList ++ '(' :: back
  dropped : ¬Carries entry (target entry.kind) c.dataType →
    c'.dataType = (target entry.kind).name

variable {source : TypeTable} {target : Placement} {c c' : Column}

/-! ### One column -/

theorem typeText_of_carries {entry : NativeType} {type : String}
    (h : Carries entry (target entry.kind) type) :
    target.typeText entry type = (target entry.kind).name ++ TypeTable.parameters type :=
  if_pos ⟨h.same, h.fixed⟩

theorem typeText_of_not_carries {entry : NativeType} {type : String}
    (h : ¬Carries entry (target entry.kind) type) :
    target.typeText entry type = (target entry.kind).name := by
  rw [Placement.typeText]
  by_cases hkind : (target entry.kind).kind = entry.kind ∧
      (entry.kind = .char ∨ entry.kind = .decimal)
  · have hnone : '(' ∉ type.toList := fun hsome => h ⟨hsome, hkind.1, hkind.2⟩
    rw [parameters_of_not_mem hnone]
    simp
  · exact if_neg hkind

theorem placedAs_iff {entry : NativeType} : PlacedAs target entry c c' ↔
    c' = { c with dataType := target.typeText entry c.dataType } := by
  by_cases hcarries : Carries entry (target entry.kind) c.dataType
  · obtain ⟨front, back, htype, hfront⟩ := List.eq_append_cons_of_mem hcarries.some
    have htext : (target.typeText entry c.dataType).toList =
        (target entry.kind).name.toList ++ '(' :: back := by
      rw [typeText_of_carries hcarries, String.toList_append, toList_parameters htype hfront]
    constructor
    · intro h
      obtain ⟨front', back', htype', hfront', htext'⟩ := h.carried hcarries
      have hback := toList_parameters htype hfront
      rw [toList_parameters htype' hfront'] at hback
      have hsame : c'.dataType = target.typeText entry c.dataType := by
        apply String.toList_injective
        rw [htext', hback, htext]
      rw [h.frame, hsame]
    · rintro rfl
      exact ⟨rfl, fun _ => ⟨front, back, htype, hfront, htext⟩, fun h => absurd hcarries h⟩
  · rw [typeText_of_not_carries hcarries]
    constructor
    · intro h
      rw [h.frame, h.dropped hcarries]
    · rintro rfl
      exact ⟨rfl, fun h => absurd h hcarries, fun _ => rfl⟩

theorem convertColumn_eq_ok_iff : convertColumn source target c = .ok c' ↔
    ∃ entry, source.resolve c.dataType = .ok entry ∧ PlacedAs target entry c c' := by
  rw [convertColumn, bind_eq_ok_iff]
  refine exists_congr fun entry => and_congr_right fun _ => ?_
  rw [placedAs_iff]
  constructor
  · intro h
    cases h
    rfl
  · rintro rfl
    rfl

theorem convertColumn_eq_error_iff {e : DbError} : convertColumn source target c = .error e ↔
    ¬(∃ entry, source.resolve c.dataType = .ok entry) ∧
      e = .unknownDataType source.engine c.dataType := by
  rw [← TypeTable.resolve_eq_error_iff, convertColumn]
  cases source.resolve c.dataType with
  | error e' =>
    constructor
    · intro h
      cases h
      rfl
    · intro h
      cases h
      rfl
  | ok entry => exact iff_of_false nofun nofun

theorem exists_convertColumn_iff : (∃ c', convertColumn source target c = .ok c') ↔
    ∃ entry, source.resolve c.dataType = .ok entry := by
  constructor
  · rintro ⟨c', h⟩
    obtain ⟨entry, hentry, -⟩ := convertColumn_eq_ok_iff.mp h
    exact ⟨entry, hentry⟩
  · rintro ⟨entry, hentry⟩
    exact ⟨_, convertColumn_eq_ok_iff.mpr ⟨entry, hentry, placedAs_iff.mpr rfl⟩⟩

/-- A conversion changes nothing but the type. -/
theorem eq_of_convertColumn (h : convertColumn source target c = .ok c') :
    c' = { c with dataType := c'.dataType } := by
  obtain ⟨entry, -, hplaced⟩ := convertColumn_eq_ok_iff.mp h
  exact hplaced.frame

/-! ### Columns that were converted -/

/-- Whatever is placed on a type of the table is placed on the same type again. -/
structure Stable (source : TypeTable) (target : Placement) : Prop where
  mem : ∀ kind, target kind ∈ source.entries
  plain : ∀ kind, PlainName (target kind).name
  fixed : ∀ kind, target (target kind).kind = target kind

theorem stable_placement : Stable types placement where
  mem kind := by cases kind <;> decide
  plain kind := by cases kind <;> exact ⟨by decide, by decide⟩
  fixed kind := by cases kind <;> rfl

theorem Stable.typeText_eq (h : Stable source target) (kind : LogicalKind) {ps : String}
    (hps : ∀ c ∈ ps.toList.head?, c = '(')
    (hkind : ps ≠ "" → (target kind).kind = .char ∨ (target kind).kind = .decimal) :
    target.typeText (target kind) ((target kind).name ++ ps) = (target kind).name ++ ps := by
  rw [Placement.typeText, h.fixed, parameters_append (h.plain kind) hps]
  by_cases hempty : ps = ""
  · subst hempty
    simp
  · exact if_pos ⟨rfl, hkind hempty⟩

/-- **A column that was converted stays as it is.** -/
theorem Stable.convertColumn_eq (h : Stable source target)
    (hc : convertColumn source target c = .ok c') : convertColumn source target c' = .ok c' := by
  obtain ⟨entry, -, hplaced⟩ := convertColumn_eq_ok_iff.mp hc
  obtain ⟨ps, htext, hps, hkind⟩ : ∃ ps : String,
      target.typeText entry c.dataType = (target entry.kind).name ++ ps ∧
      (∀ c ∈ ps.toList.head?, c = '(') ∧
      (ps ≠ "" → (target entry.kind).kind = .char ∨ (target entry.kind).kind = .decimal) := by
    by_cases hcarries : Carries entry (target entry.kind) c.dataType
    · refine ⟨_, typeText_of_carries hcarries, head?_parameters c.dataType, fun _ => ?_⟩
      rw [hcarries.same]
      exact hcarries.fixed
    · refine ⟨"", ?_, nofun, fun hne => absurd rfl hne⟩
      rw [typeText_of_not_carries hcarries]
      simp
  rw [placedAs_iff, htext] at hplaced
  subst hplaced
  have hresolve := resolve_append (h.mem entry.kind) (h.plain entry.kind) hps
  refine convertColumn_eq_ok_iff.mpr ⟨target entry.kind, hresolve, placedAs_iff.mpr ?_⟩
  rw [h.typeText_eq entry.kind hps hkind]

/-- **What a conversion does.** It fails exactly if the type of a column is unknown, with an
error that tells the whole text of the first such type. Otherwise there is one column for
each, in order, with nothing changed but its type: the name on which its kind is placed, with
the parameters of the old type exactly if there are any and both types stand for texts of
fixed width or both for decimals. ClickHouse's columns that were converted to ClickHouse's
types stay as they are when they are converted again. -/
theorem convertColumns_places (source : TypeTable) (target : Placement) (cs : List Column) :
    ((∃ e, convertColumns source target cs = .error e) ↔
      ∃ c ∈ cs, ¬∃ entry, source.resolve c.dataType = .ok entry) ∧
    (∀ e, convertColumns source target cs = .error e ↔ ∃ before c after,
      cs = before ++ c :: after ∧
      (∀ b ∈ before, ∃ entry, source.resolve b.dataType = .ok entry) ∧
      (¬∃ entry, source.resolve c.dataType = .ok entry) ∧
      e = .unknownDataType source.engine c.dataType) ∧
    (∀ cs', convertColumns source target cs = .ok cs' ↔ List.Forall₂ (fun c c' =>
      ∃ entry, source.resolve c.dataType = .ok entry ∧ PlacedAs target entry c c') cs cs') ∧
    (convertColumns types placement cs >>= convertColumns types placement) =
      convertColumns types placement cs := by
  have herror (e : DbError) : convertColumns source target cs = .error e ↔ ∃ before c after,
      cs = before ++ c :: after ∧
      (∀ b ∈ before, ∃ entry, source.resolve b.dataType = .ok entry) ∧
      (¬∃ entry, source.resolve c.dataType = .ok entry) ∧
      e = .unknownDataType source.engine c.dataType := by
    rw [convertColumns, mapM_eq_error_iff_first]
    simp only [exists_convertColumn_iff, convertColumn_eq_error_iff]
  refine ⟨?_, herror, ?_, ?_⟩
  · constructor
    · rintro ⟨e, he⟩
      obtain ⟨before, c, after, rfl, -, hc, -⟩ := (herror e).mp he
      exact ⟨c, by simp, hc⟩
    · rintro ⟨c, hmem, hc⟩
      cases hall : convertColumns source target cs with
      | error e => exact ⟨e, rfl⟩
      | ok cs' =>
        have hknown := forall_mem_of_mapM_eq_ok hall c hmem
        exact absurd (exists_convertColumn_iff.mp hknown) hc
  · intro cs'
    rw [convertColumns, mapM_eq_ok_iff]
    simp only [convertColumn_eq_ok_iff]
  · cases hcs : convertColumns types placement cs with
    | error e => rfl
    | ok cs' =>
      have hsteps := mapM_eq_ok_iff.mp hcs
      show cs'.mapM (convertColumn types placement) = .ok cs'
      rw [mapM_eq_ok_iff, List.forall₂_same]
      refine (forall_mem_iff_of_forall₂ hsteps fun c _ c' hc => ?_).mp fun _ _ => trivial
      exact iff_of_true trivial (stable_placement.convertColumn_eq hc)

end SqlDialect.ClickHouse
