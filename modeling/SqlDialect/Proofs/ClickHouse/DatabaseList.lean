import Mathlib.Data.List.Perm.Basic
import SqlDialect.ClickHouse.Catalog
import SqlDialect.Connection.Scripted
import SqlDialect.Proofs.Text.ByteOrder
import SqlDialect.Proofs.Traversal
/-!
# The list of databases

An `IsListing` of names is in the order of their bytes and has each name as often as it is
reported, but for those of the server's own databases. There is one listing of the reported
names for every order they are reported in (`IsListing.eq_of_perm`), and it is what the
catalog answers: `databases_listed`. So in which order the server sends its rows, and whether
it leaves out its own databases, makes no difference.
-/

namespace SqlDialect.ClickHouse.Catalog

open Text.Utf8 (InOrder inOrder_iff)

variable {σ : Type} {names names' listed listed' : List String}

/-- The reported names in the order of their bytes, without those of the server's own databases
and each of the others as often as it is reported. -/
structure IsListing (names listed : List String) : Prop where
  ascending : listed.Pairwise InOrder
  count : ∀ name, listed.count name =
    if name ∈ ["system", "information_schema", "INFORMATION_SCHEMA"] then 0
    else names.count name

/-- **The order of the report makes no difference.** -/
theorem IsListing.eq_of_perm (h : IsListing names listed) (h' : IsListing names' listed')
    (hperm : names.Perm names') : listed = listed' := by
  have hsame : listed.Perm listed' := by
    refine List.perm_iff_count.mpr fun name => ?_
    rw [h.count, h'.count, hperm.count_eq]
  refine hsame.eq_of_pairwise (fun a b _ _ hab hba => ?_) h.ascending h'.ascending
  exact String.le_antisymm (inOrder_iff.mp hab) (inOrder_iff.mp hba)

theorem IsListing.of_perm (hascending : listed.Pairwise InOrder)
    (hperm : listed.Perm (names.filter fun name => !systemDatabases.contains name)) :
    IsListing names listed := by
  refine ⟨hascending, fun name => ?_⟩
  rw [hperm.count_eq]
  change _ = if name ∈ systemDatabases then 0 else names.count name
  by_cases hname : name ∈ systemDatabases
  · rw [if_pos hname, List.count_eq_zero]
    simp [hname]
  · rw [if_neg hname, List.count_filter]
    simpa using hname

theorem pairwise_inOrder_mergeSort (names : List String) :
    (names.mergeSort fun a b => !decide (b < a)).Pairwise InOrder := by
  have htrans : ∀ a b c : String, !decide (b < a) → !decide (c < b) → !decide (c < a) := by
    intro a b c hab hbc
    simp only [Bool.not_eq_true', decide_eq_false_iff_not, String.not_lt] at hab hbc ⊢
    exact String.le_trans hab hbc
  have htotal : ∀ a b : String, !decide (b < a) || !decide (a < b) := by
    intro a b
    simp only [Bool.or_eq_true, Bool.not_eq_true', decide_eq_false_iff_not, String.not_lt]
    exact String.le_total a b
  refine (List.pairwise_mergeSort htrans htotal names).imp fun {a b} hab => ?_
  rw [inOrder_iff, ← String.not_lt]
  simpa using hab

theorem isListing_userDatabases (names : List String) :
    IsListing names (userDatabases names) :=
  .of_perm (pairwise_inOrder_mergeSort _) (List.mergeSort_perm _ _)

/-- What is listed if all rows of the answer have a name. -/
theorem databases_of_rows {c : Connection σ} {s s' : σ} {result : ResultSet}
    (hquery : c.query databasesQuery [] s = (.ok result, s'))
    (hrows : List.Forall₂ (fun r name => r.decodeString "name" = .ok name) result.rows names) :
    databases c s = (.ok (userDatabases names), s') := by
  have hnames : result.rows.mapM (·.decodeString "name") = .ok names := mapM_eq_ok_iff.mpr hrows
  rw [databases, step_bind_apply, hquery]
  dsimp only
  rw [hnames]
  rfl

/-- **Databases are listed in one order.** If the server answers and all rows of its answer
have a name, then the databases are the listing of these names, and so are the schemas. That
is one list and no other; and any connection whose answer has the same rows in any order
gives this list as well. -/
theorem databases_listed (c : Connection σ) {s s' : σ} {result : ResultSet}
    (hquery : c.query databasesQuery [] s = (.ok result, s'))
    (hrows : List.Forall₂ (fun r name => r.decodeString "name" = .ok name) result.rows names) :
    ∃ listed, databases c s = (.ok listed, s') ∧ schemas c s = (.ok listed, s') ∧
      IsListing names listed ∧ (∀ other, IsListing names other → other = listed) ∧
      ∀ {τ : Type} (d : Connection τ) {t t' : τ} {answer : ResultSet},
        d.query databasesQuery [] t = (.ok answer, t') → answer.rows.Perm result.rows →
        databases d t = (.ok listed, t') ∧ schemas d t = (.ok listed, t') := by
  have hlisting := isListing_userDatabases names
  have hrun := databases_of_rows hquery hrows
  refine ⟨userDatabases names, hrun, hrun, hlisting, fun other hother => ?_, ?_⟩
  · exact hother.eq_of_perm hlisting (.refl names)
  · intro τ d t t' answer hanswer hperm
    obtain ⟨names', hrows', hnames⟩ := List.perm_comp_forall₂ hperm hrows
    have hsame : userDatabases names' = userDatabases names :=
      (isListing_userDatabases names').eq_of_perm hlisting hnames
    have hrun' := databases_of_rows hanswer hrows'
    rw [hsame] at hrun'
    exact ⟨hrun', hrun'⟩

/-- A catalog that reports these names of databases. -/
def naming (names : List String) : Connection Bool :=
  { ({} : Script).connection with
    query := fun _ _ => pure (.ofRows ["name"] (names.map fun name => [.string name])) }

/-- Names out of order, one of them twice, and two that are the server's own. -/
theorem databases_listed_of_unordered :
    (databases (naming ["é", "system", "b", "Z", "information_schema", "b"]) false).1 =
        .ok ["Z", "b", "b", "é"] ∧
      (schemas (naming ["b", "Z", "é", "system", "information_schema", "b"]) false).1 =
        .ok ["Z", "b", "b", "é"] := by
  obtain ⟨listed, hrun, -, -, hunique, hperm⟩ :=
    databases_listed (naming ["é", "system", "b", "Z", "information_schema", "b"])
      (s := false) rfl
      (.cons rfl (.cons rfl (.cons rfl (.cons rfl (.cons rfl (.cons rfl .nil))))))
  have hlisted : ["Z", "b", "b", "é"] = listed := by
    have hsorted : ["Z", "b", "b", "é"].Pairwise (· ≤ ·) := by decide
    exact hunique _ (.of_perm (hsorted.imp inOrder_iff.mpr) (by decide))
  subst hlisted
  have hrows : ["b", "Z", "é", "system", "information_schema", "b"].Perm
      ["é", "system", "b", "Z", "information_schema", "b"] := by decide
  obtain ⟨-, hschemas⟩ :=
    hperm (naming ["b", "Z", "é", "system", "information_schema", "b"]) (t := false) rfl
      ((hrows.map fun name => [Cell.string name]).map (Row.mk ["name"]))
  rw [hrun, hschemas]
  exact ⟨rfl, rfl⟩

end SqlDialect.ClickHouse.Catalog
