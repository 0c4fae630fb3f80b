import Mathlib.Data.List.Nodup
import SqlDialect.Proofs.ClickHouse.Endpoint
import SqlDialect.Proofs.ClickHouse.Session
import SqlDialect.Proofs.Text.ByteOrder
/-!
# The settings of a server

Parameters have no order of their own, so what can be said of their settings is said by look-up.
Settings that are strictly ascending by their names are known by their members: there is one list
of them for each look-up (`IsSettings.eq`). Settings can be made by sorting all parameters by name
and leaving out reserved ones, or by going through the parameters in any order, leaving out
reserved ones and sorting the rest by names and values. What is sorted by names and has the right
members is that one list (`IsSettings.of_perm`), so both are the same.

A client that is given settings of different names keeps them in the order in which they are given
(`withOptions_eq`), and every request that it makes carries all of them, but nothing is said of the
order in which a request has its parameters: a request `Carries` a configuration if it has the
right ones, and two that carry the same are alike (`Request.Carries.alike`).

`connect_settings`: what connecting sends, and all that is sent over the connection after that, is
made by the client that was given these settings. So it depends on the look-up alone, and not on
an order in which the parameters are kept or gone through.
-/

namespace SqlDialect

namespace Params

theorem putEntry_of_notMem {key : String} (value : String) {es : List (String × String)}
    (h : key ∉ es.map (·.1)) : putEntry key value es = es ++ [(key, value)] := by
  induction es with
  | nil => rfl
  | cons e es ih =>
    obtain ⟨k, v⟩ := e
    rw [List.map_cons, List.mem_cons, not_or] at h
    rw [putEntry, if_neg (Ne.symm h.1), ih h.2, List.cons_append]

theorem mem_entries_iff {p : Params} {key value : String} :
    (key, value) ∈ p.entries ↔ p.get? key = some value := by
  rw [get?, Option.map_eq_some_iff]
  constructor
  · intro hmem
    cases hfind : p.entries.find? fun e => e.1 == key with
    | none =>
      have hne := List.find?_eq_none.mp hfind (key, value) hmem
      simp at hne
    | some e =>
      have hkey : e.1 = key := by simpa using List.find?_some hfind
      have he : e = (key, value) :=
        List.inj_on_of_nodup_map p.nodup (List.mem_of_find?_eq_some hfind) hmem hkey
      exact ⟨e, rfl, by rw [he]⟩
  · rintro ⟨e, hfind, rfl⟩
    have hkey : e.1 = key := by simpa using List.find?_some hfind
    rw [← hkey]
    exact List.mem_of_find?_eq_some hfind

end Params

namespace ClickHouse

open Text.Utf8 (Before before_iff)

/-- Settings for a server: the parameters whose names are not reserved, each with its value, in
the order of the bytes of their names. No two have one name. -/
structure IsSettings (p : Params) (settings : List (String × String)) : Prop where
  ascending : settings.Pairwise fun a b => Before a.1 b.1
  mem_iff (key value : String) : (key, value) ∈ settings ↔ p.get? key = some value ∧
    key ∉ ["host", "ssl", "database", "username", "user", "password"]

/-- Settings out of parameters that come in some order: reserved names are left out, and what is
left is sorted by names and values. -/
def settingsOf (entries : List (String × String)) : List (String × String) :=
  (entries.filter fun e => !reservedParams.contains e.1).mergeSort fun a b =>
    !(b.1 < a.1 || (b.1 == a.1 && b.2 < a.2))

section

variable {p q : Params} {settings settings' : List (String × String)}

theorem IsSettings.nodup (h : IsSettings p settings) : settings.Nodup := by
  refine h.ascending.imp ?_
  rintro a b hab rfl
  exact String.lt_irrefl _ (before_iff.mp hab)

theorem IsSettings.nodup_names (h : IsSettings p settings) : (settings.map (·.1)).Nodup := by
  rw [List.Nodup, List.pairwise_map]
  refine h.ascending.imp fun {a b} hab hname => ?_
  rw [hname] at hab
  exact String.lt_irrefl _ (before_iff.mp hab)

/-- **There is one list of settings** for parameters with the same look-up. -/
theorem IsSettings.eq (h : IsSettings p settings) (h' : IsSettings q settings')
    (hsame : ∀ key, p.get? key = q.get? key) : settings = settings' := by
  have hperm : settings.Perm settings' := by
    rw [List.perm_ext_iff_of_nodup h.nodup h'.nodup]
    rintro ⟨key, value⟩
    rw [h.mem_iff, h'.mem_iff, hsame]
  refine hperm.eq_of_pairwise (fun a b _ _ hab hba => ?_) h.ascending h'.ascending
  exact absurd (before_iff.mp hba) (String.lt_asymm (before_iff.mp hab))

/-- What is left of the parameters, sorted by names, are settings. -/
theorem IsSettings.of_perm
    (hperm : settings.Perm (p.entries.filter fun e => !reservedParams.contains e.1))
    (hsorted : settings.Pairwise fun a b => a.1 ≤ b.1) : IsSettings p settings := by
  have hnames : (settings.map (·.1)).Nodup := by
    rw [(hperm.map (·.1)).nodup_iff]
    exact p.nodup.sublist (List.filter_sublist.map _)
  have hne : settings.Pairwise fun a b => a.1 ≠ b.1 := List.pairwise_map.mp hnames
  refine ⟨(hsorted.and hne).imp fun {a b} hab => ?_, fun key value => ?_⟩
  · rw [before_iff]
    by_contra hlt
    exact hab.2 (String.le_antisymm hab.1 (String.not_lt.mp hlt))
  · rw [hperm.mem_iff, List.mem_filter, Params.mem_entries_iff]
    simp [reservedParams]

end

section

variable (p : Params)

/-- Sorting all parameters by their names and leaving out the reserved ones gives settings. -/
theorem isSettings_serverSettings : IsSettings p (serverSettings p) := by
  have htrans : ∀ a b c : String × String, !decide (b.1 < a.1) → !decide (c.1 < b.1) →
      !decide (c.1 < a.1) := by
    intro a b c hab hbc
    simp only [Bool.not_eq_true', decide_eq_false_iff_not, String.not_lt] at hab hbc ⊢
    exact String.le_trans hab hbc
  have htotal : ∀ a b : String × String, !decide (b.1 < a.1) || !decide (a.1 < b.1) := by
    intro a b
    simp only [Bool.or_eq_true, Bool.not_eq_true', decide_eq_false_iff_not, String.not_lt]
    exact String.le_total a.1 b.1
  have hsorted : p.sorted.Pairwise fun a b => a.1 ≤ b.1 := by
    refine (List.pairwise_mergeSort htrans htotal p.entries).imp fun {a b} hab => ?_
    rwa [Bool.not_eq_true', decide_eq_false_iff_not, String.not_lt] at hab
  exact .of_perm ((List.mergeSort_perm ..).filter _) (hsorted.filter _)

/-- The order by names and values: no pair comes after a later one. -/
theorem not_after_iff {a b : String × String} :
    (!(decide (b.1 < a.1) || (b.1 == a.1 && decide (b.2 < a.2)))) = true ↔
      a.1 < b.1 ∨ a.1 = b.1 ∧ a.2 ≤ b.2 := by
  rw [Bool.not_eq_true', Bool.or_eq_false_iff, Bool.and_eq_false_iff, decide_eq_false_iff_not,
    decide_eq_false_iff_not, beq_eq_false_iff_ne, String.not_lt, String.not_lt]
  constructor
  · rintro ⟨hle, hvalue⟩
    by_cases heq : a.1 = b.1
    · exact Or.inr ⟨heq, hvalue.resolve_left fun hne => hne heq.symm⟩
    · refine Or.inl ?_
      by_contra hlt
      exact heq (String.le_antisymm hle (String.not_lt.mp hlt))
  · rintro (hlt | ⟨heq, hvalue⟩)
    · refine ⟨String.not_lt.mp (String.lt_asymm hlt), Or.inl ?_⟩
      rintro heq
      rw [heq] at hlt
      exact String.lt_irrefl _ hlt
    · exact ⟨heq ▸ String.le_refl _, Or.inr hvalue⟩

theorem pairwise_mergeSort_pairs (es : List (String × String)) :
    (es.mergeSort fun a b => !(b.1 < a.1 || (b.1 == a.1 && b.2 < a.2))).Pairwise
      fun a b => a.1 ≤ b.1 := by
  refine (List.pairwise_mergeSort ?_ ?_ es).imp fun {a b} hab => ?_
  · intro a b c hab hbc
    rw [not_after_iff] at hab hbc ⊢
    rcases hab with hab | ⟨hab, hvalue⟩
    · refine Or.inl ?_
      rcases hbc with hbc | ⟨hbc, -⟩
      · exact String.lt_trans hab hbc
      · rwa [hbc] at hab
    · rw [hab]
      rcases hbc with hbc | ⟨hbc, hvalue'⟩
      · exact Or.inl hbc
      · exact Or.inr ⟨hbc, String.le_trans hvalue hvalue'⟩
  · intro a b
    rw [Bool.or_eq_true, not_after_iff, not_after_iff]
    rcases Std.lt_trichotomy a.1 b.1 with hlt | heq | hgt
    · exact Or.inl (Or.inl hlt)
    · rcases String.le_total a.2 b.2 with hle | hle
      · exact Or.inl (Or.inr ⟨heq, hle⟩)
      · exact Or.inr (Or.inr ⟨heq.symm, hle⟩)
    · exact Or.inr (Or.inl hgt)
  · rcases not_after_iff.mp hab with hlt | ⟨heq, -⟩
    · exact String.not_lt.mp (String.lt_asymm hlt)
    · exact heq ▸ String.le_refl _

/-- So does leaving out the reserved ones in any order and sorting by names and values. -/
theorem isSettings_settingsOf {order : List (String × String)} (h : order.Perm p.entries) :
    IsSettings p (settingsOf order) :=
  .of_perm ((List.mergeSort_perm ..).trans (h.filter _)) (pairwise_mergeSort_pairs _)

end

/-! ### What a client sends -/

/-- Settings of different names are kept in the order in which they are given, and nothing else of
a client changes. -/
theorem withOptions_eq (c : Client) {settings : List (String × String)}
    (h : ((c.settings ++ settings).map (·.1)).Nodup) :
    c.withOptions settings = { c with settings := c.settings ++ settings } := by
  induction settings generalizing c with
  | nil => rw [List.append_nil]; rfl
  | cons s settings ih =>
    have hnew : s.1 ∉ c.settings.map (·.1) := by
      rw [List.map_append, List.nodup_append] at h
      exact fun hmem => h.2.2 _ hmem _ (List.mem_cons_self ..) rfl
    have hstep : c.withOption s.1 s.2 = { c with settings := c.settings ++ [s] } := by
      rw [Client.withOption, Params.putEntry_of_notMem s.2 hnew]
    show (c.withOption s.1 s.2).withOptions settings = _
    rw [List.append_cons] at h
    rw [hstep, ih { c with settings := c.settings ++ [s] } h]
    simp only [List.append_assoc, List.singleton_append]

/-- A request for a statement and a format that goes to the server of a configuration, as its user
and with its database and its settings. The parameters may come in any order. -/
structure Request.Carries (r : Request) (config : ConnectionConfig) (sql : String)
    (format : Option String) : Prop where
  url_eq : r.url = (Endpoint.ofConfig config).serverUrl
  sql_eq : r.sql = sql
  user_eq : r.user = some (Endpoint.ofConfig config).username
  key_eq : r.key = some (Endpoint.ofConfig config).password
  params_perm : ∃ settings, IsSettings config.params settings ∧
    r.params.Perm (("database", (Endpoint.ofConfig config).database) ::
      (format.map fun f => ("default_format", f)).toList ++ settings)

/-- Two requests that differ in the order of their parameters at most. -/
structure Request.Alike (r s : Request) : Prop where
  url_eq : r.url = s.url
  sql_eq : r.sql = s.sql
  user_eq : r.user = s.user
  key_eq : r.key = s.key
  params_perm : r.params.Perm s.params

section

variable {config other : ConnectionConfig} {settings : List (String × String)}

theorem IsSettings.carries (h : IsSettings config.params settings) (sql : String)
    (format : Option String) :
    (((Client.of (Endpoint.ofConfig config)).withOptions settings).request sql format).Carries
      config sql format := by
  rw [withOptions_eq (Client.of (Endpoint.ofConfig config)) h.nodup_names]
  exact ⟨rfl, rfl, rfl, rfl, settings, h, List.Perm.refl _⟩

/-- **Requests that carry the same are alike.** -/
theorem Request.Carries.alike {r s : Request} {sql : String} {format : Option String}
    (hr : r.Carries other sql format) (hs : s.Carries config sql format)
    (hendpoint : Endpoint.ofConfig other = Endpoint.ofConfig config)
    (hget : ∀ key, other.params.get? key = config.params.get? key) : r.Alike s := by
  obtain ⟨settings, hsettings, hperm⟩ := hr.params_perm
  obtain ⟨settings', hsettings', hperm'⟩ := hs.params_perm
  obtain rfl := hsettings.eq hsettings' hget
  rw [hendpoint] at hperm
  refine ⟨?_, hr.sql_eq.trans hs.sql_eq.symm, ?_, ?_, hperm.trans hperm'.symm⟩
  · rw [hr.url_eq, hs.url_eq, hendpoint]
  · rw [hr.user_eq, hs.user_eq, hendpoint]
  · rw [hr.key_eq, hs.key_eq, hendpoint]

end

/-! ### What connecting sends -/

section

variable {τ : Type}

theorem sends_openOn (answer : Except RequestError Unit) (line : Line τ) :
    ∃ r line', Sends (openOn answer) (openOn answer) line [] r line' := by
  cases answer with
  | error e => exact ⟨_, _, Action.records_ofExcept (.error _) line⟩
  | ok =>
    refine ⟨.ok (), { line with closed := false }, rfl, fun log => ?_⟩
    rw [List.append_nil]
    rfl

/-- The first query is one request, whatever the answer is. -/
theorem sends_greet (client : Client) (transport : Transport τ) (line : Line τ) :
    ∃ r line', Sends (greet client transport) (greet client transport.recorded) line
      [client.request probeQuery (some "RowBinaryWithNamesAndTypes")] r line' := by
  have hsend := sends_send transport line
    (client.request probeQuery (some "RowBinaryWithNamesAndTypes"))
  obtain ⟨r, line', hopen⟩ := sends_openOn _ _
  exact ⟨r, line', hsend.bind hopen⟩

/-- Connecting sends the first query, and the connection is one of the client that sent it. -/
theorem connect_recorded (transport : Transport τ) (config : ConnectionConfig) (line : Line τ) :
    ∃ r, ∃ line' : Line τ,
      connect transport.recorded config (line.withRequests []) = (r, line'.withRequests
        [(clientFor config).request probeQuery (some "RowBinaryWithNamesAndTypes")]) ∧
      (connect transport config line).2 = line' ∧
      failure? (connect transport config line).1 = failure? r ∧
      ∀ c, r = .ok c → c = connection (clientFor config) transport.recorded
        (Endpoint.ofConfig config).database := by
  obtain ⟨r, line', hsends⟩ := sends_greet (clientFor config) transport line
  have hplain : connect transport config line = _ := step_bind_apply _ _ line
  have hrecorded : connect transport.recorded config (line.withRequests []) = _ :=
    step_bind_apply _ _ _
  rw [hsends.ends] at hplain
  rw [hsends.tells, List.nil_append] at hrecorded
  cases r with
  | error e =>
    refine ⟨_, line', hrecorded, congrArg Prod.snd hplain, ?_, nofun⟩
    rw [hplain]
    rfl
  | ok =>
    refine ⟨_, line', hrecorded, congrArg Prod.snd hplain, ?_, fun c hc => ?_⟩
    · rw [hplain]
      rfl
    · exact (Except.ok.inj hc).symm

/-- Parameters with the same look-up describe the same server. -/
theorem ofConfig_eq_of_get? {config : ConnectionConfig} {params : Params}
    (h : ∀ key, params.get? key = config.params.get? key) :
    Endpoint.ofConfig { config with params := params } = Endpoint.ofConfig config := by
  have hstring (key : String) :
      { config with params := params : ConnectionConfig }.getString? key =
        config.getString? key := by
    unfold ConnectionConfig.getString?
    rw [h]
    rfl
  have hflag (key : String) :
      { config with params := params : ConnectionConfig }.getFlag key = config.getFlag key := by
    unfold ConnectionConfig.getFlag
    rw [h]
  unfold Endpoint.ofConfig
  rw [hstring, hflag]

theorem clientFor_eq {config other : ConnectionConfig}
    (hendpoint : Endpoint.ofConfig other = Endpoint.ofConfig config)
    (hget : ∀ key, other.params.get? key = config.params.get? key) :
    clientFor other = clientFor config := by
  have hsettings := (isSettings_serverSettings other.params).eq
    (isSettings_serverSettings config.params) hget
  rw [clientFor, clientFor, hendpoint, hsettings]

/-- **The settings of a server.** For the parameters of a configuration there is one list of
settings, and it comes of them in whatever order they are gone through. The client that is given
these settings one after the other makes the request by which a connection is opened, whether it
succeeds or not, and all requests that are sent over the connection after that, on any line and for
any operations. Each of its requests carries the address of the server, the user, the database and
all of the settings. So a configuration whose parameters have the same look-up sends the same, to
any server, if it describes the same endpoint, as it does if all its other fields are the same; and
what carries the one configuration is alike what carries the other. -/
theorem connect_settings (config : ConnectionConfig) :
    ∃ settings, IsSettings config.params settings ∧
      (∀ settings', IsSettings config.params settings' → settings' = settings) ∧
      (∀ order, order.Perm config.params.entries → settingsOf order = settings) ∧
      let client := (Client.of (Endpoint.ofConfig config)).withOptions settings
      (∀ {τ : Type} (transport : Transport τ) (line : Line τ), ∃ r, ∃ line' : Line τ,
        connect transport.recorded config (line.withRequests []) = (r, line'.withRequests
          [client.request probeQuery (some "RowBinaryWithNamesAndTypes")]) ∧
        (connect transport config line).2 = line' ∧
        failure? (connect transport config line).1 = failure? r ∧
        ∀ c, r = .ok c → ∀ (ops : List Operation) (line : Line τ), ∃ replies requests,
          ∃ last : Line τ,
          c.performAll ops (line.withRequests []) = (replies, last.withRequests requests) ∧
          ∀ request ∈ requests, client.Makes request) ∧
      (∀ sql format, (client.request sql format).Carries config sql format) ∧
      ∀ other : ConnectionConfig, (∀ key, other.params.get? key = config.params.get? key) →
        (Endpoint.ofConfig other = Endpoint.ofConfig config →
          (∀ {τ : Type} (transport : Transport τ),
            connect transport other = connect transport config) ∧
          ∀ {sql : String} {format : Option String} {r s : Request},
            r.Carries other sql format → s.Carries config sql format → r.Alike s) ∧
        ∀ {τ : Type} (transport : Transport τ),
          connect transport { config with params := other.params } = connect transport config := by
  have hsettings := isSettings_serverSettings config.params
  have hconnect {other : ConnectionConfig}
      (hendpoint : Endpoint.ofConfig other = Endpoint.ofConfig config)
      (hget : ∀ key, other.params.get? key = config.params.get? key) {τ : Type}
      (transport : Transport τ) : connect transport other = connect transport config := by
    unfold connect
    rw [clientFor_eq hendpoint hget, hendpoint]
  refine ⟨serverSettings config.params, hsettings, ?_, ?_, ?_, hsettings.carries, ?_⟩
  · intro settings h
    exact h.eq hsettings fun _ => rfl
  · intro order h
    exact (isSettings_settingsOf config.params h).eq hsettings fun _ => rfl
  · intro τ transport line
    obtain ⟨r, line', hrecorded, hline, hfailure, hok⟩ := connect_recorded transport config line
    refine ⟨r, line', hrecorded, hline, hfailure, fun c hc ops line => ?_⟩
    obtain rfl := hok c hc
    exact performAll_recorded (clientFor config) transport _ ops line []
  · intro other hget
    refine ⟨fun hendpoint => ⟨hconnect hendpoint hget, ?_⟩, ?_⟩
    · intro sql format r s hr hs
      exact hr.alike hs hendpoint hget
    · intro τ transport
      exact hconnect (ofConfig_eq_of_get? hget) hget transport

/-- Parameters that came in two orders, one of them reserved. -/
theorem connect_settings_of_orders :
    let c : ConnectionConfig := { driver := "clickhouse", params :=
      ⟨[("max_threads", "4"), ("host", "ch2"), ("Async", "1"), ("async", "0")], by decide⟩ }
    let d : ConnectionConfig := { driver := "clickhouse", params :=
      ⟨[("async", "0"), ("Async", "1"), ("max_threads", "4"), ("host", "ch2")], by decide⟩ }
    (∃ r, ∃ line' : Line Unit, ∃ probe : Request,
      connect silent.recorded c ((⟨false, ()⟩ : Line Unit).withRequests []) =
        (r, line'.withRequests [probe]) ∧
      probe.url = "http://ch2:8123" ∧ probe.user = some "default" ∧
      probe.params.Perm [("Async", "1"), ("async", "0"), ("database", "default"),
        ("default_format", "RowBinaryWithNamesAndTypes"), ("max_threads", "4")]) ∧
      ∀ {τ : Type} (transport : Transport τ), connect transport d = connect transport c := by
  intro c d
  have hperm : d.params.entries.Perm c.params.entries := by decide
  have hget : ∀ key, d.params.get? key = c.params.get? key := by
    intro key
    ext value
    rw [← Params.mem_entries_iff, ← Params.mem_entries_iff, hperm.mem_iff]
  have hsorted : [("Async", "1"), ("async", "0"), ("max_threads", "4")].Pairwise
      fun a b : String × String => a.1 ≤ b.1 := by decide
  obtain ⟨settings, -, hunique, -, hconnect, hcarries, hother⟩ := connect_settings c
  obtain rfl := hunique _ (.of_perm (by decide) hsorted)
  obtain ⟨r, line', hrecorded, -⟩ := hconnect silent ⟨false, ()⟩
  have hprobe := hcarries probeQuery (some "RowBinaryWithNamesAndTypes")
  refine ⟨⟨r, line', _, hrecorded, hprobe.url_eq.trans (by decide), hprobe.user_eq, ?_⟩,
    (hother d hget).2⟩
  obtain ⟨settings', hsettings', hparams⟩ := hprobe.params_perm
  rw [hunique settings' hsettings'] at hparams
  exact hparams.trans (by decide)

end

end ClickHouse

end SqlDialect
