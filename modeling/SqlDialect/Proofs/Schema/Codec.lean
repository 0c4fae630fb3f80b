import SqlDialect.Proofs.Cell.Codec
import SqlDialect.Proofs.Json.Decode
import SqlDialect.Schema.Codec
/-!
# Descriptors read back

A descriptor is written with all of its fields, and some of them have a default. The text of a
descriptor from which any of these are left out is decoded as the descriptor in which they have
their defaults (`Json.ReadsBack`). This holds of columns, tables, indexes and requests for a copy.

The fields of the record are found by their names (`Json.Layout.record?_without`); each kind of
field then takes what was written, or its default (`Json.flag_unless`, `Json.maybeString_unless`,
`Json.maybeCount_unless`). Descriptors and cells are taken together in `decode?_of_written`.
-/

namespace SqlDialect

/-! ### Fields -/

namespace Json

variable {p : Prop} [Decidable p]

theorem required_unless (hp : ¬p) (s : String) :
    required string? (if p then none else some (.string s)) = some s := by
  rw [if_neg hp]
  rfl

theorem flag_unless (b : Bool) :
    flag (if p then none else some (.bool b)) = some (if p then false else b) := by
  by_cases hp : p
  · rw [if_pos hp, if_pos hp]
    rfl
  · rw [if_neg hp, if_neg hp]
    rfl

theorem maybeString_unless (s : Option String) :
    maybeString (if p then none else some (.ofOption s)) = some (if p then none else s) := by
  by_cases hp : p
  · rw [if_pos hp, if_pos hp]
    rfl
  · rw [if_neg hp, if_neg hp]
    cases s with
    | none => rfl
    | some s => rfl

theorem uint64?_nat (n : UInt64) : (nat n.toNat).uint64? = some n := by
  have hlow : (0 : Int) ≤ n.toNat := Int.natCast_nonneg _
  have hhigh : (n.toNat : Int) < 0x10000000000000000 := Int.ofNat_lt.mpr n.toNat_lt
  rw [uint64?, nat, ← int, intIn?_eq_some_iff.mpr ⟨⟨hlow, hhigh⟩, rfl⟩, Option.map_some,
    Int.toNat_natCast, UInt64.ofNat_toNat]

theorem nullable_nat {α : Type} (f : Json → Option α) (n : Nat) :
    nullable f (nat n) = (f (nat n)).map some := rfl

theorem maybeCount_unless (n : Option UInt64) :
    maybeCount (if p then none else some (.ofCount n)) = some (if p then none else n) := by
  by_cases hp : p
  · rw [if_pos hp, if_pos hp]
    rfl
  · rw [if_neg hp, if_neg hp]
    cases n with
    | none => rfl
    | some n =>
      rw [ofCount, Option.map_some, Option.getD_some, maybeCount, optional, nullable_nat,
        uint64?_nat, Option.map_some]

theorem readable_ofOption (s : Option String) : Readable 0 (ofOption s) := by
  cases s with
  | none => exact .null
  | some s => exact .string s

theorem readable_ofCount (n : Option UInt64) : Readable 0 (ofCount n) := by
  cases n with
  | none => exact .null
  | some n =>
    have := n.toNat_lt
    exact .number (Number.readsBack_integer (by omega) (by omega))

/-- What is written is decoded as itself, and without some of the fields that have a default as
what `reset` makes of it. -/
def ReadsBack {α : Type} (write : α → Json) (read? : Json → Option α) (defaulted : List String)
    (reset : List String → α → α) : Prop :=
  ∀ a : α, decode? read? (write a).compact = some a ∧
    ∀ omitted, omitted ⊆ defaulted →
      decode? read? ((write a).without omitted).compact = some (reset omitted a)

theorem Layout.readsBack {α : Type} (l : Layout α) {write : α → Json} {read? : Json → Option α}
    {defaulted : List String} {reset : List String → α → α}
    (hwrite : ∀ a, write a = .object (l.members a)) (hreset : ∀ a, reset [] a = a)
    (hread : ∀ a {omitted}, omitted ⊆ defaulted →
      read? ((write a).without omitted) = some (reset omitted a)) :
    ReadsBack write read? defaulted reset := by
  intro a
  have hroom : 1 ≤ nestingLimit := by decide
  have hreadable : Readable 1 (write a) := hwrite a ▸ l.readable_object a
  refine ⟨?_, fun omitted homitted => ?_⟩
  · have hwhole := hread a (List.nil_subset defaulted)
    rw [without_nil, hreset] at hwhole
    rw [decode?_compact read? (hreadable.mono hroom), hwhole]
  · rw [decode?_compact read? ((hreadable.without omitted).mono hroom), hread a homitted]

end Json

/-! ### Columns -/

namespace Column

def defaultedNames : List String :=
  ["comment", "nullable", "is_primary_key", "default_value", "auto_increment"]

/-- A column of which some fields are left to their defaults. -/
def reset (omitted : List String) (c : Column) : Column :=
  let plain : Column :=
    { tableName := c.tableName, columnName := c.columnName, dataType := c.dataType }
  { c with
    comment := if "comment" ∈ omitted then plain.comment else c.comment
    nullable := if "nullable" ∈ omitted then plain.nullable else c.nullable
    isPrimaryKey := if "is_primary_key" ∈ omitted then plain.isPrimaryKey else c.isPrimaryKey
    defaultValue := if "default_value" ∈ omitted then plain.defaultValue else c.defaultValue
    autoIncrement := if "auto_increment" ∈ omitted then plain.autoIncrement else c.autoIncrement }

def layout : Json.Layout Column where
  names := fieldNames
  members c := c.toJson.members
  names_members _ := rfl
  nodup := by decide
  readable _ := by
    simp only [toJson, Json.members, List.forall_mem_cons]
    exact ⟨.string _, .string _, .string _, Json.readable_ofOption _, .bool _, .bool _,
      Json.readable_ofOption _, .bool _, List.forall_mem_nil _⟩

theorem ofJson?_without (c : Column) {omitted : List String} (h : omitted ⊆ defaultedNames) :
    ofJson? (c.toJson.without omitted) = some (c.reset omitted) := by
  have htable : "table_name" ∉ omitted := fun hmem => absurd (h hmem) (by decide)
  have hcolumn : "column_name" ∉ omitted := fun hmem => absurd (h hmem) (by decide)
  have htype : "data_type" ∉ omitted := fun hmem => absurd (h hmem) (by decide)
  have hfields : (c.toJson.without omitted).record? fieldNames = _ :=
    layout.record?_without c omitted
  rw [ofJson?, hfields]
  simp only [layout, toJson, Json.members, List.map_cons, List.map_nil, Option.bind_eq_bind,
    Option.bind_some, Json.required_unless htable, Json.required_unless hcolumn,
    Json.required_unless htype, Json.maybeString_unless, Json.flag_unless]
  rfl

/-- **Columns read back**, with defaults for what is left out. -/
theorem readsBack : Json.ReadsBack toJson ofJson? defaultedNames reset :=
  layout.readsBack (fun _ => rfl) (fun _ => rfl) ofJson?_without

end Column

/-! ### Tables -/

namespace Table

def defaultedNames : List String := ["comment", "engine", "total_rows", "total_bytes"]

/-- A table of which some fields are left to their defaults. -/
def reset (omitted : List String) (t : Table) : Table :=
  let plain : Table := { tableName := t.tableName }
  { t with
    comment := if "comment" ∈ omitted then plain.comment else t.comment
    engine := if "engine" ∈ omitted then plain.engine else t.engine
    totalRows := if "total_rows" ∈ omitted then plain.totalRows else t.totalRows
    totalBytes := if "total_bytes" ∈ omitted then plain.totalBytes else t.totalBytes }

def layout : Json.Layout Table where
  names := fieldNames
  members t := t.toJson.members
  names_members _ := rfl
  nodup := by decide
  readable _ := by
    simp only [toJson, Json.members, List.forall_mem_cons]
    exact ⟨.string _, Json.readable_ofOption _, Json.readable_ofOption _,
      Json.readable_ofCount _, Json.readable_ofCount _, List.forall_mem_nil _⟩

theorem ofJson?_without (t : Table) {omitted : List String} (h : omitted ⊆ defaultedNames) :
    ofJson? (t.toJson.without omitted) = some (t.reset omitted) := by
  have htable : "table_name" ∉ omitted := fun hmem => absurd (h hmem) (by decide)
  have hfields : (t.toJson.without omitted).record? fieldNames = _ :=
    layout.record?_without t omitted
  rw [ofJson?, hfields]
  simp only [layout, toJson, Json.members, List.map_cons, List.map_nil, Option.bind_eq_bind,
    Option.bind_some, Json.required_unless htable, Json.maybeString_unless,
    Json.maybeCount_unless]
  rfl

/-- **Tables read back**, with defaults for what is left out. -/
theorem readsBack : Json.ReadsBack toJson ofJson? defaultedNames reset :=
  layout.readsBack (fun _ => rfl) (fun _ => rfl) ofJson?_without

end Table

/-! ### Indexes -/

namespace Index

def defaultedNames : List String := ["comment"]

/-- An index of which some fields are left to their defaults. -/
def reset (omitted : List String) (i : Index) : Index :=
  let plain : Index := { indexName := i.indexName, indexType := i.indexType }
  { i with comment := if "comment" ∈ omitted then plain.comment else i.comment }

def layout : Json.Layout Index where
  names := fieldNames
  members i := i.toJson.members
  names_members _ := rfl
  nodup := by decide
  readable _ := by
    simp only [toJson, Json.members, List.forall_mem_cons]
    exact ⟨.string _, .string _, Json.readable_ofOption _, List.forall_mem_nil _⟩

theorem ofJson?_without (i : Index) {omitted : List String} (h : omitted ⊆ defaultedNames) :
    ofJson? (i.toJson.without omitted) = some (i.reset omitted) := by
  have hname : "index_name" ∉ omitted := fun hmem => absurd (h hmem) (by decide)
  have htype : "index_type" ∉ omitted := fun hmem => absurd (h hmem) (by decide)
  have hfields : (i.toJson.without omitted).record? fieldNames = _ :=
    layout.record?_without i omitted
  rw [ofJson?, hfields]
  simp only [layout, toJson, Json.members, List.map_cons, List.map_nil, Option.bind_eq_bind,
    Option.bind_some, Json.required_unless hname, Json.required_unless htype,
    Json.maybeString_unless]
  rfl

/-- **Indexes read back**, with a default for what is left out. -/
theorem readsBack : Json.ReadsBack toJson ofJson? defaultedNames reset :=
  layout.readsBack (fun _ => rfl) (fun _ => rfl) ofJson?_without

end Index

/-! ### Requests for a copy -/

namespace CopyRequest

def defaultedNames : List String := ["copy_data"]

/-- A request of which some fields are left to their defaults. -/
def reset (omitted : List String) (r : CopyRequest) : CopyRequest :=
  let plain : CopyRequest := { tableName := r.tableName, newTableName := r.newTableName }
  { r with copyData := if "copy_data" ∈ omitted then plain.copyData else r.copyData }

def layout : Json.Layout CopyRequest where
  names := fieldNames
  members r := r.toJson.members
  names_members _ := rfl
  nodup := by decide
  readable _ := by
    simp only [toJson, Json.members, List.forall_mem_cons]
    exact ⟨.string _, .string _, .bool _, List.forall_mem_nil _⟩

theorem ofJson?_without (r : CopyRequest) {omitted : List String}
    (h : omitted ⊆ defaultedNames) :
    ofJson? (r.toJson.without omitted) = some (r.reset omitted) := by
  have htable : "table_name" ∉ omitted := fun hmem => absurd (h hmem) (by decide)
  have hnew : "new_table_name" ∉ omitted := fun hmem => absurd (h hmem) (by decide)
  have hfields : (r.toJson.without omitted).record? fieldNames = _ :=
    layout.record?_without r omitted
  rw [ofJson?, hfields]
  simp only [layout, toJson, Json.members, List.map_cons, List.map_nil, Option.bind_eq_bind,
    Option.bind_some, Json.required_unless htable, Json.required_unless hnew, Json.flag_unless]
  rfl

/-- **Requests for a copy read back**, with a default for what is left out. -/
theorem readsBack : Json.ReadsBack toJson ofJson? defaultedNames reset :=
  layout.readsBack (fun _ => rfl) (fun _ => rfl) ofJson?_without

end CopyRequest

/-! ### Descriptors and cells -/

/-- **What is kept as JSON text comes back.** A cell without floating point numbers and documents,
whose leap seconds stand where their text says, is decoded as itself, if it nests no deeper than
the reader goes. So are columns, tables, indexes and requests for a copy, and with fields left out
that have a default they get these defaults. An integer of any size is decoded as a cell exactly if
it is in the range of its variant, and a text is no cell if such an integer is out of its range
anywhere in the arrays. -/
theorem decode?_of_written :
    (∀ c : Cell, c.Exact → c.toJson.depth ≤ Json.nestingLimit →
      Json.decode? Cell.ofJson? c.toJson.compact = some c) ∧
    Json.ReadsBack Column.toJson Column.ofJson? Column.defaultedNames Column.reset ∧
    Json.ReadsBack Table.toJson Table.ofJson? Table.defaultedNames Table.reset ∧
    Json.ReadsBack Index.toJson Index.ofJson? Index.defaultedNames Index.reset ∧
    Json.ReadsBack CopyRequest.toJson CopyRequest.ofJson? CopyRequest.defaultedNames
      CopyRequest.reset ∧
    (∀ (v : Cell.IntegerVariant) (n : Int),
      Json.decode? Cell.ofJson? (Cell.tagged v.name (.int n)).compact =
        if v.Holds n then some (v.cell n) else none) ∧
    ∀ (s : String) (j : Json), Json.readRaw? s = some j → Cell.Misfit j →
      Json.decode? Cell.ofJson? s = none := by
  refine ⟨fun c hc hdepth => hc.decode?_compact hdepth, Column.readsBack, Table.readsBack,
    Index.readsBack, CopyRequest.readsBack, Cell.decode?_integer, fun s j hs hj => ?_⟩
  rw [Json.decode?, hs, Option.bind_some, hj.ofJson?_eq_none]

theorem decode?_of_written_arrays :
    let c : Cell := .array [.array [.int8 (-128), .uint64 18446744073709551615, .null],
      .bytes [0, 255], .time ⟨23, 59, 59, 1500000000, by decide, by decide, by decide, by decide⟩]
    let j : Json := Cell.tagged "Array" (.array [Cell.tagged "Int8" (.int 128)])
    c.Exact ∧ c.toJson.depth ≤ Json.nestingLimit ∧
      Json.decode? Cell.ofJson? c.toJson.compact = some c ∧
      Json.readRaw? j.compact = some j ∧ Cell.Misfit j ∧
      Json.decode? Cell.ofJson? j.compact = none ∧
      ["comment", "total_rows"] ⊆ Table.defaultedNames ∧
      Json.decode? Table.ofJson? ((Table.toJson ⟨"t", some "c", some "Log", some 7, none⟩).without
        ["comment", "total_rows"]).compact = some ⟨"t", none, some "Log", none, none⟩ := by
  intro c j
  have hexact : c.Exact := by
    refine .array ?_
    simp only [List.forall_mem_cons]
    refine ⟨.array ?_, .bytes _, .time fun _ => rfl, List.forall_mem_nil _⟩
    simp only [List.forall_mem_cons]
    exact ⟨.int8 _, .uint64 _, .null, List.forall_mem_nil _⟩
  have hdepth : c.toJson.depth ≤ Json.nestingLimit := by decide
  have hread : Json.readRaw? j.compact = some j := by
    have hdeep : j.depth ≤ Json.nestingLimit := by decide
    refine ((Cell.readable_tagged (Json.readable_array ?_)).mono hdeep).readRaw?_compact
    intro i hi
    rw [List.mem_singleton.mp hi]
    exact Cell.readable_tagged (.number (Json.Number.readsBack_integer (by decide) (by decide)))
  have hmisfit : Cell.Misfit j := by
    refine .item (List.mem_singleton.mpr rfl) (Cell.Misfit.integer (v := .int8) ?_)
    rintro n hn ⟨⟩
    exact absurd hn (by decide)
  obtain ⟨hcells, -, htables, -, -, -, hmisfits⟩ := decode?_of_written
  exact ⟨hexact, hdepth, hcells c hexact hdepth, hread, hmisfit, hmisfits _ j hread hmisfit,
    by decide, (htables _).2 _ (by decide)⟩

end SqlDialect
