import Mathlib.Data.List.Forall2
/-!
# Lists of steps that may fail

A traversal of a list by `mapM` succeeds exactly if each step does, and then has the
results in order (`mapM_eq_ok_iff`). It fails with the error of its first failing step
(`mapM_cons_eq_error_iff`, `mapM_eq_error_iff`, `mapM_eq_error_iff_first`). What reads each
part of a list reads the list (`mapM_map_eq_some`), and one part that cannot be read is enough to
read nothing (`mapM_eq_none`). Steps that keep a state run one after the other up to the first
that fails (`step_bind_apply`).
-/

namespace SqlDialect

variable {α β ε : Type} {f : α → Except ε β}

theorem mapM_eq_ok_iff {as : List α} {bs : List β} :
    as.mapM f = .ok bs ↔ List.Forall₂ (fun a b => f a = .ok b) as bs := by
  induction as generalizing bs with
  | nil =>
    rw [List.mapM_nil, List.forall₂_nil_left_iff]
    constructor
    · intro h
      cases h
      rfl
    · rintro rfl
      rfl
  | cons a as ih =>
    rw [List.mapM_cons, List.forall₂_cons_left_iff]
    constructor
    · intro h
      cases ha : f a with
      | error e => rw [ha] at h; cases h
      | ok b =>
        cases has : as.mapM f with
        | error e => rw [ha, has] at h; cases h
        | ok bs' =>
          rw [ha, has] at h
          cases h
          exact ⟨b, bs', rfl, ih.mp has, rfl⟩
    · rintro ⟨b, bs', ha, has, rfl⟩
      rw [ha, ih.mpr has]
      rfl

theorem forall_mem_of_mapM_eq_ok {as : List α} {bs : List β} (h : as.mapM f = .ok bs) :
    ∀ a ∈ as, ∃ b, f a = .ok b := by
  induction mapM_eq_ok_iff.mp h with
  | nil => exact List.forall_mem_nil _
  | cons ha has ih => exact List.forall_mem_cons.mpr ⟨⟨_, ha⟩, ih (mapM_eq_ok_iff.mpr has)⟩

theorem exists_mapM_eq_ok {as : List α} (h : ∀ a ∈ as, ∃ b, f a = .ok b) :
    ∃ bs, as.mapM f = .ok bs := by
  induction as with
  | nil => exact ⟨[], rfl⟩
  | cons a as ih =>
    obtain ⟨b, hb⟩ := h a (List.mem_cons_self ..)
    obtain ⟨bs, hbs⟩ := ih fun c hc => h c (List.mem_cons_of_mem _ hc)
    refine ⟨b :: bs, ?_⟩
    rw [List.mapM_cons, hb, hbs]
    rfl

theorem mapM_cons_eq_error_iff {a : α} {as : List α} {e : ε} :
    (a :: as).mapM f = .error e ↔
      f a = .error e ∨ ∃ b, f a = .ok b ∧ as.mapM f = .error e := by
  rw [List.mapM_cons]
  cases ha : f a with
  | error e' => simp [bind, Except.bind]
  | ok b =>
    cases has : as.mapM f with
    | error e' => simp [bind, Except.bind]
    | ok bs => simp [bind, Except.bind, pure, Except.pure]

/-- What comes first in a list is its head, or passes the head and comes first in its tail. -/
theorem exists_first_cons_iff {p : α → Prop} {q : List α → α → Prop} {a : α} {as : List α} :
    (∃ before c after, a :: as = before ++ c :: after ∧ (∀ b ∈ before, p b) ∧ q before c) ↔
      q [] a ∨ p a ∧ ∃ before c after, as = before ++ c :: after ∧ (∀ b ∈ before, p b) ∧
        q (a :: before) c := by
  constructor
  · rintro ⟨before, c, after, has, hbefore, hc⟩
    cases before with
    | nil =>
      obtain ⟨rfl, -⟩ := List.cons_eq_cons.mp has
      exact Or.inl hc
    | cons b before =>
      obtain ⟨rfl, rfl⟩ := List.cons_eq_cons.mp has
      obtain ⟨hb, hbefore⟩ := List.forall_mem_cons.mp hbefore
      exact Or.inr ⟨hb, before, c, after, rfl, hbefore, hc⟩
  · rintro (ha | ⟨ha, before, c, after, rfl, hbefore, hc⟩)
    · exact ⟨[], a, as, rfl, List.forall_mem_nil _, ha⟩
    · exact ⟨a :: before, c, after, rfl, List.forall_mem_cons.mpr ⟨ha, hbefore⟩, hc⟩

theorem mapM_eq_error_iff_first {as : List α} {e : ε} :
    as.mapM f = .error e ↔ ∃ before a after, as = before ++ a :: after ∧
      (∀ b ∈ before, ∃ y, f b = .ok y) ∧ f a = .error e := by
  induction as with
  | nil => simp [pure, Except.pure]
  | cons a as ih => rw [mapM_cons_eq_error_iff, ih, exists_first_cons_iff, exists_and_right]

theorem bind_eq_ok_iff {x : Except ε α} {g : α → Except ε β} {b : β} :
    (x >>= g) = .ok b ↔ ∃ a, x = .ok a ∧ g a = .ok b := by
  cases x <;> simp [bind, Except.bind]

theorem map_eq_error_iff {x : Except ε α} {g : α → β} {e : ε} :
    x.map g = .error e ↔ x = .error e := by
  cases x <;> simp [Except.map]

theorem mapM_eq_error_iff {fault : α → Option ε} (hfault : ∀ a e, f a = .error e ↔ fault a = some e)
    {as : List α} {e : ε} : as.mapM f = .error e ↔ as.findSome? fault = some e := by
  induction as with
  | nil => simp [pure, Except.pure]
  | cons a as ih =>
    rw [mapM_cons_eq_error_iff, ih, hfault, List.findSome?_cons]
    cases ha : f a with
    | error e' => simp [(hfault a e').mp ha]
    | ok b =>
      have hnone : fault a = none := by
        rw [Option.eq_none_iff_forall_ne_some]
        intro e' he'
        rw [(hfault a e').mpr he'] at ha
        cases ha
      simp [hnone]

/-- A reader that takes each part for what it was written from reads the list of the parts. -/
theorem mapM_map_eq_some {γ : Type} {read : β → Option γ} {write : α → β} {meant : α → γ}
    {as : List α} (h : ∀ a ∈ as, read (write a) = some (meant a)) :
    (as.map write).mapM read = some (as.map meant) := by
  induction as with
  | nil => rfl
  | cons a as ih =>
    obtain ⟨ha, has⟩ := List.forall_mem_cons.mp h
    rw [List.map_cons, List.mapM_cons, ha, ih has]
    rfl

/-- One part that cannot be read is enough. -/
theorem mapM_eq_none {read : α → Option β} {a : α} {as : List α} (ha : a ∈ as)
    (h : read a = none) : as.mapM read = none := by
  induction as with
  | nil => cases ha
  | cons a' as ih =>
    rw [List.mapM_cons]
    rcases List.mem_cons.mp ha with rfl | ha
    · rw [h]
      rfl
    · rw [ih ha]
      cases read a' with
      | none => rfl
      | some b => rfl

/-- What holds of all elements holds of all that they are related to, if it does one by one. -/
theorem forall_mem_iff_of_forall₂ {r : α → β → Prop} {p : α → Prop} {q : β → Prop} {as : List α}
    {bs : List β} (h : List.Forall₂ r as bs) (hpq : ∀ a ∈ as, ∀ b, r a b → (p a ↔ q b)) :
    (∀ a ∈ as, p a) ↔ ∀ b ∈ bs, q b := by
  induction h with
  | nil => simp
  | cons hab _ ih =>
    obtain ⟨hhead, htail⟩ := List.forall_mem_cons.mp hpq
    rw [List.forall_mem_cons, List.forall_mem_cons, hhead _ hab, ih htail]

/-- Two steps that keep a state, the second on what the first leaves. -/
theorem step_bind_apply {σ : Type} (a : ExceptT ε (StateM σ) α) (g : α → ExceptT ε (StateM σ) β)
    (s : σ) :
    (a >>= g) s = match a s with
      | (.ok x, s') => g x s'
      | (.error e, s') => (.error e, s') := by
  rcases ha : a s with ⟨r, s'⟩
  simp only [bind, ExceptT.bind, ExceptT.mk, StateT.bind, ExceptT.bindCont]
  rw [ha]
  cases r <;> rfl

end SqlDialect
