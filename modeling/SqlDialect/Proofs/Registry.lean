import Mathlib.Data.List.Induction
import Mathlib.Data.List.Nodup
import SqlDialect.Proofs.Connection.Exchange
import SqlDialect.Proofs.Traversal
import SqlDialect.Registry
/-!
# Runs of registrations

`add` registers a bundle in place, and `after` is a new registry after any number of
such calls, refused ones among them. One fact carries this file (`reflects_after`): such
a registry finds for an identifier the first bundle of the run that has it. A call keeps
this up whether it is refused or not (`Reflects.add`), since a bundle that is refused is
never the first one of its identifier.

`after_calls` reads everything off that: which calls are refused, what can be looked up,
and the list of the engines, which does not depend on the order of the calls.
-/

namespace SqlDialect.Registry

variable {σ : Type} {r : Registry σ} {b : Bundle σ} {calls : List (Bundle σ)} {id : String}

/-! ### One more bundle in a list -/

theorem find?_insert {cs : List (Bundle σ)} (hb : ∀ c ∈ cs, c.engine ≠ b.engine) (id : String) :
    (insert b cs).find? (·.engine == id) =
      if b.engine = id then some b else cs.find? (·.engine == id) := by
  induction cs with
  | nil => by_cases h : b.engine = id <;> simp [insert, h]
  | cons c cs ih =>
    have hc : c.engine ≠ b.engine := hb c (List.mem_cons_self ..)
    have ih := ih fun d hd => hb d (List.mem_cons_of_mem _ hd)
    unfold insert
    split
    · by_cases h : b.engine = id <;> simp [h]
    · by_cases h : c.engine = id
      · have hne : b.engine ≠ id := fun hbid => hc (h.trans hbid.symm)
        simp [h, hne]
      · rw [List.find?_cons_of_neg (by simpa using h), ih,
          List.find?_cons_of_neg (by simpa using h)]

/-- Two ascending lists with the same members are the same. -/
theorem eq_of_ascending {l l' : List String} (hl : l.Pairwise (· < ·)) (hl' : l'.Pairwise (· < ·))
    (h : ∀ id, id ∈ l ↔ id ∈ l') : l = l' := by
  have hnodup {l : List String} (hl : l.Pairwise (· < ·)) : l.Nodup := by
    refine hl.imp fun {a b} hab he => ?_
    subst he
    exact String.lt_irrefl a hab
  have hperm : l.Perm l' := (List.perm_ext_iff_of_nodup (hnodup hl) (hnodup hl')).mpr h
  refine hperm.eq_of_pairwise ?_ hl hl'
  intro a b _ _ hab hba
  exact absurd (String.lt_trans hab hba) (String.lt_irrefl a)

/-! ### What a registry shows -/

theorem find?_eq_none_iff : r.find? id = none ↔ id ∉ r.engines := by
  simp [find?, engines]

theorem ascending_engines (r : Registry σ) : r.engines.Pairwise (· < ·) :=
  List.pairwise_map.mpr r.ascending

theorem lookup_eq_ok_iff : r.lookup id = .ok b ↔ r.find? id = some b := by
  unfold lookup
  cases r.find? id <;> simp

theorem has_iff : r.has id = true ↔ ∃ b, r.lookup id = .ok b := by
  simp only [has, Option.isSome_iff_exists, lookup_eq_ok_iff]

/-! ### Calls -/

/-- The call that registers a bundle. -/
def add (b : Bundle σ) : Action (Registry σ) Unit := do
  let r ← get
  let r' ← Action.ofExcept (r.register b)
  set r'

/-- A new registry after these calls, one after the other, whatever came of each. -/
def after (calls : List (Bundle σ)) : Registry σ :=
  calls.foldl (fun r b => (add b r).2) empty

theorem after_concat (calls : List (Bundle σ)) (b : Bundle σ) :
    after (calls ++ [b]) = (add b (after calls)).2 := List.foldl_concat ..

theorem add_apply (b : Bundle σ) (r : Registry σ) :
    add b r = match r.register b with
      | .ok r' => (.ok (), r')
      | .error e => (.error e, r) := by
  unfold add
  rw [step_bind_apply]
  show (Action.ofExcept (r.register b) >>= fun r' => set r') r = _
  rw [step_bind_apply]
  cases r.register b <;> rfl

/-- The registry finds the first of these bundles that has an identifier. -/
def Reflects (r : Registry σ) (calls : List (Bundle σ)) : Prop :=
  ∀ id, r.find? id = calls.find? (·.engine == id)

theorem Reflects.mem_engines_iff (h : r.Reflects calls) :
    id ∈ r.engines ↔ id ∈ calls.map (·.engine) := by
  rw [← not_iff_not, ← find?_eq_none_iff, h id]
  simp

/-- A new bundle is found by its identifier and changes nothing else. -/
theorem Reflects.add_new (h : r.Reflects calls) (hb : b.engine ∉ calls.map (·.engine)) :
    ∃ r', add b r = (.ok (), r') ∧ r'.Reflects (calls ++ [b]) := by
  have hnone : r.find? b.engine = none := find?_eq_none_iff.mpr (mt h.mem_engines_iff.mp hb)
  have hne : ∀ c ∈ r.bundles, c.engine ≠ b.engine := by simpa [find?] using hnone
  refine ⟨⟨insert b r.bundles, ascending_insert r.ascending hne⟩, ?_, ?_⟩
  · rw [add_apply, register, dif_pos hnone]
  · intro id
    show (insert b r.bundles).find? _ = _
    rw [find?_insert hne, List.find?_append, ← h id]
    by_cases hid : b.engine = id
    · subst hid
      simp [hnone]
    · simp [hid, find?]

/-- A bundle whose identifier has been used is refused and changes nothing. -/
theorem Reflects.add_used (h : r.Reflects calls) (hb : b.engine ∈ calls.map (·.engine)) :
    add b r = (.error (.duplicateRegistration b.engine), r) ∧ r.Reflects (calls ++ [b]) := by
  have hsome : r.find? b.engine ≠ none := fun hnone =>
    find?_eq_none_iff.mp hnone (h.mem_engines_iff.mpr hb)
  refine ⟨by rw [add_apply, register, dif_neg hsome], fun id => ?_⟩
  rw [List.find?_append, ← h id]
  by_cases hid : b.engine = id
  · subst hid
    obtain ⟨c, hc⟩ := Option.ne_none_iff_exists'.mp hsome
    rw [hc, Option.some_or]
  · simp [hid]

theorem Reflects.add (h : r.Reflects calls) (b : Bundle σ) :
    (add b r).2.Reflects (calls ++ [b]) := by
  by_cases hb : b.engine ∈ calls.map (·.engine)
  · obtain ⟨hadd, hafter⟩ := h.add_used hb
    rwa [hadd]
  · obtain ⟨r', hadd, hafter⟩ := h.add_new hb
    rwa [hadd]

/-- **The first bundle with an identifier is the one that is found**, after any run. -/
theorem reflects_after (calls : List (Bundle σ)) : (after calls).Reflects calls := by
  induction calls using List.reverseRec with
  | nil => exact fun _ => rfl
  | append_singleton calls b ih =>
    rw [after_concat]
    exact ih.add b

/-- **What a registry is after any calls.** The next call is refused exactly if an earlier
one used its identifier, and then changes nothing. The first bundle that had an identifier
is looked up, and everything else that asks for an engine fails where the look-up does. The
engines are the identifiers that were used, in order, so two runs that used the same ones
have the same engines. -/
theorem after_calls (calls : List (Bundle σ)) :
    (∀ b,
      Registry.add b (after calls) =
        (if b.engine ∈ calls.map (·.engine) then .error (.duplicateRegistration b.engine)
          else .ok (), after (calls ++ [b])) ∧
      (b.engine ∈ calls.map (·.engine) → after (calls ++ [b]) = after calls)) ∧
    (∀ id,
      ((after calls).lookup id = match calls.find? (·.engine == id) with
        | some b => .ok b
        | none => .error (.unknownEngine id)) ∧
      ((after calls).has id = true ↔ ∃ b, (after calls).lookup id = .ok b) ∧
      (∀ e, (after calls).dialect id = .error e ↔ (after calls).lookup id = .error e) ∧
      (∀ e, (after calls).catalog id = .error e ↔ (after calls).lookup id = .error e)) ∧
    (after calls).engines.Pairwise (· < ·) ∧
    (∀ id, id ∈ (after calls).engines ↔ id ∈ calls.map (·.engine)) ∧
    (∀ calls' : List (Bundle σ),
      (∀ id, id ∈ calls'.map (·.engine) ↔ id ∈ calls.map (·.engine)) →
        (after calls').engines = (after calls).engines) := by
  have hreflects := reflects_after calls
  refine ⟨fun b => ?_, fun id => ?_, ascending_engines _, fun id => hreflects.mem_engines_iff,
    fun calls' hused => ?_⟩
  · rw [after_concat]
    by_cases hb : b.engine ∈ calls.map (·.engine)
    · rw [(hreflects.add_used hb).1, if_pos hb]
      exact ⟨rfl, fun _ => rfl⟩
    · obtain ⟨r', hadd, -⟩ := hreflects.add_new hb
      rw [hadd, if_neg hb]
      exact ⟨rfl, fun h => absurd h hb⟩
  · refine ⟨?_, has_iff, fun e => map_eq_error_iff, fun e => map_eq_error_iff⟩
    cases hfind : calls.find? (·.engine == id) with
    | none => rw [lookup, hreflects id, hfind]
    | some b => rw [lookup, hreflects id, hfind]
  · refine eq_of_ascending (ascending_engines _) (ascending_engines _) fun id => ?_
    rw [(reflects_after calls').mem_engines_iff, hreflects.mem_engines_iff, hused id]

end SqlDialect.Registry
