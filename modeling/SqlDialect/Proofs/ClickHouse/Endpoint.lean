import SqlDialect.ClickHouse.Endpoint
/-!
# Which settings reach a server

A `Component` of an endpoint is a part that both a parameter and a field may name. What a
configuration says of it is its parameter, or else its field, or else the default
(`Component.setting`).

Only the host is taken from there. The other components are read from their fields alone
(`Component.part_ofConfig`), and still the parameters of their names are kept from the server: such
a parameter is neither heeded nor sent. `part_eq_setting_iff` says exactly when that makes
a difference, and which parameters are lost.
-/

namespace SqlDialect

namespace Params

theorem find?_putEntry (key value name : String) (es : List (String × String)) :
    (putEntry key value es).find? (·.1 == name) =
      if key = name then some (name, value) else es.find? (·.1 == name) := by
  induction es with
  | nil => by_cases h : key = name <;> simp [putEntry, h]
  | cons e es ih =>
    obtain ⟨k, v⟩ := e
    unfold putEntry
    by_cases hk : k = key
    · rw [if_pos hk]
      subst hk
      by_cases h : k = name <;> simp [h]
    · rw [if_neg hk]
      by_cases h : k = name
      · have hne : key ≠ name := fun he => hk (h.trans he.symm)
        simp [h, hne]
      · rw [List.find?_cons_of_neg (by simpa using h), ih,
          List.find?_cons_of_neg (by simpa using h)]

theorem get?_put (p : Params) (key value name : String) :
    (p.put key value).get? name = if key = name then some value else p.get? name := by
  rw [get?, put, find?_putEntry]
  by_cases h : key = name
  · rw [if_pos h, if_pos h, Option.map_some]
  · rw [if_neg h, if_neg h, get?]

theorem mem_sorted {p : Params} {e : String × String} : e ∈ p.sorted ↔ e ∈ p.entries :=
  (List.mergeSort_perm ..).mem_iff

end Params

namespace ClickHouse

theorem mem_serverSettings {p : Params} {e : String × String} :
    e ∈ serverSettings p ↔ e ∈ p.entries ∧ e.1 ∉ reservedParams := by
  simp [serverSettings, Params.mem_sorted]

namespace Endpoint

/-- A part of an endpoint that has a parameter and a field. -/
inductive Component
  | host
  | database
  | username
  | password
  deriving DecidableEq

namespace Component

/-- The name of its parameter and its field. -/
def key : Component → String
  | host => "host"
  | database => "database"
  | username => "username"
  | password => "password"

/-- What it is if nothing is said. -/
def default : Component → String
  | host => "localhost"
  | database => "default"
  | username => "default"
  | password => ""

/-- What it is in an endpoint. -/
def part (e : Endpoint) : Component → String
  | host => e.host
  | database => e.database
  | username => e.username
  | password => e.password

/-- What a configuration says of it: the parameter, else the field, unless it is missing or
empty. -/
def setting (c : ConnectionConfig) (m : Component) : String :=
  match c.getString? m.key with
  | some s => if s = "" then m.default else s
  | none => m.default

end Component

theorem orDefault_some (default s : String) :
    orDefault default (some s) = if s = "" then default else s := by
  by_cases h : s = "" <;> simp [orDefault, Option.filter_some, h]

theorem Component.setting_eq (c : ConnectionConfig) (m : Component) :
    m.setting c = orDefault m.default (c.getString? m.key) := by
  unfold setting
  cases c.getString? m.key with
  | none => rfl
  | some s => rw [orDefault_some]

/-- Every component but the host is taken from its field. -/
theorem Component.part_ofConfig (c : ConnectionConfig) {m : Component} (hm : m ≠ .host) :
    m.part (ofConfig c) = orDefault m.default (c.field? m.key) := by
  cases m with
  | host => exact absurd rfl hm
  | database => rfl
  | username => rfl
  | password =>
    show c.password.getD "" = orDefault "" c.password
    cases c.password with
    | none => rfl
    | some s =>
      rw [orDefault_some]
      split
      · rename_i h
        rw [h, Option.getD_some]
      · rfl

/-! ### What a parameter changes -/

/-- The same settings with one parameter given a value. -/
def given (c : ConnectionConfig) (key value : String) : ConnectionConfig :=
  { c with params := c.params.put key value }

theorem getString?_given (c : ConnectionConfig) (key value name : String) :
    (given c key value).getString? name = if key = name then some value else c.getString? name := by
  unfold given ConnectionConfig.getString?
  dsimp only
  rw [Params.get?_put]
  by_cases h : key = name
  · rw [if_pos h, if_pos h]
  · rw [if_neg h, if_neg h]
    rfl

theorem getFlag_given (c : ConnectionConfig) (key value name : String) :
    (given c key value).getFlag name =
      if key = name then (value == "true" || value == "1") else c.getFlag name := by
  unfold given ConnectionConfig.getFlag
  dsimp only
  rw [Params.get?_put]
  by_cases h : key = name
  · rw [if_pos h, if_pos h]
  · rw [if_neg h, if_neg h]

/-- Some value of the parameter makes another endpoint. -/
def Decides (c : ConnectionConfig) (key : String) : Prop :=
  ∃ value, ofConfig (given c key value) ≠ ofConfig c

theorem decides_host (c : ConnectionConfig) : Decides c "host" := by
  have hne : (ofConfig c).host ++ "x" ≠ "" := by simp
  refine ⟨(ofConfig c).host ++ "x", fun h => ?_⟩
  have hhost : (ofConfig (given c "host" ((ofConfig c).host ++ "x"))).host =
      (ofConfig c).host ++ "x" := by
    show orDefault _ ((given c _ _).getString? "host") = _
    rw [getString?_given, if_pos rfl, orDefault_some, if_neg hne]
  rw [h] at hhost
  have hlength := congrArg String.length hhost
  simp at hlength

theorem decides_ssl (c : ConnectionConfig) : Decides c "ssl" := by
  refine ⟨if c.getFlag "ssl" then "" else "true", fun h => ?_⟩
  have hsecure : (given c "ssl" _).getFlag "ssl" = c.getFlag "ssl" := congrArg secure h
  rw [getFlag_given, if_pos rfl] at hsecure
  cases hflag : c.getFlag "ssl" <;> rw [hflag] at hsecure <;> revert hsecure <;> decide

theorem not_decides (c : ConnectionConfig) {key : String} (hhost : key ≠ "host")
    (hssl : key ≠ "ssl") : ¬Decides c key := by
  rintro ⟨value, h⟩
  refine h ?_
  unfold ofConfig
  rw [getString?_given, getFlag_given, if_neg hhost, if_neg hssl]
  rfl

/-- **Which settings are heeded.** A component of the endpoint is what the configuration
says of it exactly if it is the host, or its parameter is missing or says the same as its
field. A parameter is sent to the server or decides some of the endpoint exactly if it is
none of four: those of the database, the user (by either name) and the password are lost. -/
theorem part_eq_setting_iff (c : ConnectionConfig) :
    (∀ m : Component, m.part (ofConfig c) = m.setting c ↔
      m = .host ∨ ∀ v, c.params.get? m.key = some v →
        orDefault m.default (some v) = orDefault m.default (c.field? m.key)) ∧
    (∀ e ∈ c.params.entries, (e ∈ serverSettings c.params ∨ Decides c e.1) ↔
      e.1 ∉ ["database", "username", "user", "password"]) := by
  refine ⟨fun m => ?_, fun e he => ?_⟩
  · by_cases hm : m = .host
    · subst hm
      exact iff_of_true (Component.setting_eq c .host).symm (Or.inl rfl)
    · rw [Component.part_ofConfig c hm, Component.setting_eq, or_iff_right hm]
      unfold ConnectionConfig.getString?
      cases hparam : c.params.get? m.key with
      | none => simp
      | some v =>
        constructor
        · intro h w hw
          cases hw
          exact h.symm
        · intro h
          exact (h v rfl).symm
  · rw [mem_serverSettings]
    constructor
    · rintro (⟨-, hsent⟩ | hdecides) hlost
      · exact hsent (List.mem_append_right ["host", "ssl"] hlost)
      · have hhost : e.1 ≠ "host" := fun h => by simp [h] at hlost
        have hssl : e.1 ≠ "ssl" := fun h => by simp [h] at hlost
        exact not_decides c hhost hssl hdecides
    · intro hkept
      by_cases hreserved : e.1 ∈ reservedParams
      · -- what is left of the reserved names are the two that are heeded
        have hheeded : e.1 ∈ ["host", "ssl"] :=
          (List.mem_append (s := ["host", "ssl"]).mp hreserved).resolve_right hkept
        rcases List.mem_cons.mp hheeded with h | h
        · exact Or.inr (h ▸ decides_host c)
        · exact Or.inr (List.mem_singleton.mp h ▸ decides_ssl c)
      · exact Or.inl ⟨he, hreserved⟩

/-- **Parameters that are neither heeded nor sent.** The host is taken from its parameter,
the database, the user and the password are not. -/
theorem parameters_lost :
    let c : ConnectionConfig := { driver := "clickhouse", params := ⟨[("host", "ch2"),
      ("database", "analytics"), ("username", "admin"), ("password", "secret")], by decide⟩ }
    c.getString? "database" = some "analytics" ∧ c.getString? "username" = some "admin" ∧
      c.getString? "password" = some "secret" ∧
      ofConfig c = ⟨"ch2", 8123, "default", "default", "", false⟩ ∧
      (ofConfig c).text = "http://ch2:8123/default" ∧
      ∀ e ∈ c.params.entries, e ∉ serverSettings c.params := by
  intro c
  refine ⟨rfl, rfl, rfl, rfl, by decide, fun e he => ?_⟩
  rw [mem_serverSettings]
  rintro ⟨-, hsent⟩
  have hall : ∀ e ∈ c.params.entries, e.1 ∈ reservedParams := by decide
  exact hsent (hall e he)

end Endpoint

end ClickHouse

end SqlDialect
