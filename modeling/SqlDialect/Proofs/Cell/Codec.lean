import SqlDialect.Cell.Codec
import SqlDialect.Proofs.Calendar.ReadBack
import SqlDialect.Proofs.Cell.Integer
import SqlDialect.Proofs.Json.Decode
import SqlDialect.Proofs.Traversal
import SqlDialect.Proofs.Uuid
/-!
# Cells read back

A cell is `Exact` if nothing in it is a floating point number, whose text need not be read as the
same bits, a document, which may hold some, or a time with a leap second behind an earlier second
than the last of a minute, whose text is that of another time. An exact cell is read from the JSON
it is written as (`Exact.ofJson?_toJson`), by induction on how it is built, and the JSON itself is
readable (`Exact.readable_toJson`). So the text of an exact cell is decoded as that cell
(`Exact.decode?_compact`), as long as it does not nest too deep for the reader.

Most variants come in two families. A text variant writes what it holds as a text and is read back
if that text is (`TextVariant.ofJson?_toJson`). An integer variant has a range, and an integer out
of it is no cell, whether it still fits 64 bits or not (`decode?_integer`). Among the items of an
array one such integer makes a misfit of the whole, however deep it lies
(`Misfit.ofJson?_eq_none`).
-/

namespace SqlDialect.Cell

/-! ### Integers -/

inductive IntegerVariant
  | int8
  | int16
  | int32
  | int64
  | uint64
  deriving DecidableEq

namespace IntegerVariant

def name : IntegerVariant → String
  | int8 => "Int8"
  | int16 => "Int16"
  | int32 => "Int32"
  | int64 => "Int64"
  | uint64 => "UInt64"

def low : IntegerVariant → Int
  | int8 => -0x80
  | int16 => -0x8000
  | int32 => -0x80000000
  | int64 => -0x8000000000000000
  | uint64 => 0

/-- The first integer beyond a variant. -/
def high : IntegerVariant → Int
  | int8 => 0x80
  | int16 => 0x8000
  | int32 => 0x80000000
  | int64 => 0x8000000000000000
  | uint64 => 0x10000000000000000

/-- An integer in the range of a variant. -/
def Holds (v : IntegerVariant) (n : Int) : Prop := v.low ≤ n ∧ n < v.high

instance (v : IntegerVariant) (n : Int) : Decidable (v.Holds n) :=
  inferInstanceAs (Decidable (v.low ≤ n ∧ n < v.high))

def cell : IntegerVariant → Int → Cell
  | int8, n => .int8 (Int8.ofInt n)
  | int16, n => .int16 (Int16.ofInt n)
  | int32, n => .int32 (Int32.ofInt n)
  | int64, n => .int64 (Int64.ofInt n)
  | uint64, n => .uint64 (UInt64.ofNat n.toNat)

theorem name_ne_array (v : IntegerVariant) : v.name ≠ "Array" := by cases v <;> decide

theorem name_ne_null (v : IntegerVariant) : v.name ≠ "Null" := by cases v <;> decide

theorem Holds.bounds {v : IntegerVariant} {n : Int} (h : v.Holds n) :
    -0x8000000000000000 ≤ n ∧ n < 0x10000000000000000 := by
  obtain ⟨hlow, hhigh⟩ := h
  cases v <;> simp only [low, high] at hlow hhigh <;> omega

/-- **The cell of an integer holds it**, and is written with it. -/
theorem Holds.toJson_cell {v : IntegerVariant} {n : Int} (h : v.Holds n) :
    toJson (v.cell n) = tagged v.name (.int n) := by
  obtain ⟨hlow, hhigh⟩ := h
  cases v with
  | int8 => rw [cell, toJson, Int8.toInt_ofInt_of_le hlow hhigh, name]
  | int16 => rw [cell, toJson, Int16.toInt_ofInt_of_le hlow hhigh, name]
  | int32 => rw [cell, toJson, Int32.toInt_ofInt_of_le hlow hhigh, name]
  | int64 => rw [cell, toJson, Int64.toInt_ofInt_of_le hlow hhigh, name]
  | uint64 =>
    simp only [low, high] at hlow hhigh
    have hfits : n.toNat < UInt64.size := by
      rw [UInt64.size]
      omega
    rw [cell, toJson, UInt64.toNat_ofNat_of_lt' hfits, name, Json.nat, Json.int,
      Int.toNat_of_nonneg hlow]

/-- **Every cell that holds an integer** is the one of a variant with this integer in its range. -/
theorem exists_of_integer? {c : Cell} {n : Int} (h : c.integer? = some n) :
    ∃ v : IntegerVariant, v.Holds n ∧ v.cell n = c := by
  cases c with
  | int8 m =>
    obtain rfl := Option.some.inj h
    exact ⟨int8, ⟨m.le_toInt, m.toInt_lt⟩, congrArg Cell.int8 (Int8.ofInt_toInt m)⟩
  | int16 m =>
    obtain rfl := Option.some.inj h
    exact ⟨int16, ⟨m.le_toInt, m.toInt_lt⟩, congrArg Cell.int16 (Int16.ofInt_toInt m)⟩
  | int32 m =>
    obtain rfl := Option.some.inj h
    exact ⟨int32, ⟨m.le_toInt, m.toInt_lt⟩, congrArg Cell.int32 (Int32.ofInt_toInt m)⟩
  | int64 m =>
    obtain rfl := Option.some.inj h
    exact ⟨int64, ⟨m.le_toInt, m.toInt_lt⟩, congrArg Cell.int64 (Int64.ofInt_toInt m)⟩
  | uint64 m =>
    obtain rfl := Option.some.inj h
    exact ⟨uint64, ⟨Int.natCast_nonneg _, Int.ofNat_lt.mpr m.toNat_lt⟩,
      congrArg Cell.uint64 UInt64.ofNat_toNat⟩
  | _ => cases h

end IntegerVariant

/-! ### Texts -/

inductive TextVariant
  | decimal
  | string
  | uuid
  | date
  | time
  | dateTime
  | dateTimeUtc
  deriving DecidableEq

namespace TextVariant

def name : TextVariant → String
  | decimal => "Decimal"
  | string => "String"
  | uuid => "Uuid"
  | date => "Date"
  | time => "Time"
  | dateTime => "DateTime"
  | dateTimeUtc => "DateTimeUtc"

def Value : TextVariant → Type
  | decimal | string => String
  | uuid => Uuid
  | date => Calendar.Date
  | time => Calendar.Time
  | dateTime | dateTimeUtc => Calendar.DateTime

def text : (v : TextVariant) → v.Value → String
  | decimal, s | string, s => s
  | uuid, u => Uuid.text u
  | date, d => Calendar.Date.text d
  | time, t => Calendar.Time.text t
  | dateTime, t => Calendar.DateTime.isoText t
  | dateTimeUtc, t => Calendar.DateTime.isoText t ++ "Z"

def read? : (v : TextVariant) → String → Option v.Value
  | decimal, s | string, s => some s
  | uuid, s => Uuid.read? s
  | date, s => Calendar.Date.read? s
  | time, s => Calendar.Time.read? s
  | dateTime, s => Calendar.DateTime.read? s
  | dateTimeUtc, s => Calendar.DateTime.readUtc? s

def cell : (v : TextVariant) → v.Value → Cell
  | decimal, s => .decimal s
  | string, s => .string s
  | uuid, u => .uuid u
  | date, d => .date d
  | time, t => .time t
  | dateTime, t => .dateTime t
  | dateTimeUtc, t => .dateTimeUtc t

theorem name_ne_array (v : TextVariant) : v.name ≠ "Array" := by cases v <;> decide

theorem name_ne_null (v : TextVariant) : v.name ≠ "Null" := by cases v <;> decide

theorem toJson_cell (v : TextVariant) (x : v.Value) :
    toJson (v.cell x) = tagged v.name (.string (v.text x)) := by
  cases v <;> rfl

end TextVariant

/-! ### Variants and their content -/

theorem ofContent?_integer (v : IntegerVariant) (j : Json) :
    ofContent? v.name j = (j.intIn? v.low v.high).map v.cell := by
  cases v with
  | uint64 =>
    show j.uint64?.map uint64 = _
    rw [Json.uint64?, Option.map_map]
    rfl
  | _ => rfl

theorem ofContent?_text (v : TextVariant) (j : Json) :
    ofContent? v.name j = (j.string?.bind v.read?).map v.cell := by
  cases v with
  | decimal =>
    show j.string?.map decimal = (j.string?.bind some).map decimal
    rw [Option.bind_fun_some]
  | string =>
    show j.string?.map string = (j.string?.bind some).map string
    rw [Option.bind_fun_some]
  | _ => rfl

theorem ofContent?_bool (j : Json) : ofContent? "Bool" j = j.bool?.map bool := rfl

theorem ofContent?_bytes (j : Json) : ofContent? "Bytes" j = (bytes? j).map bytes := rfl

/-- A variant that holds no cells is read from its content. -/
theorem ofJson?_tagged {name : String} (harray : name ≠ "Array") (hnull : name ≠ "Null")
    (j : Json) : ofJson? (tagged name j) = ofContent? name j := by
  cases j with
  | array items =>
    rw [tagged, ofJson?, if_neg harray]
  | _ =>
    rw [tagged, ofJson?, if_neg fun h => hnull h.1]
    rintro _ ⟨⟩

theorem ofJsons?_eq_mapM (js : List Json) : ofJsons? js = js.mapM ofJson? := by
  induction js with
  | nil => rfl
  | cons j js ih =>
    rw [ofJsons?, ih, List.mapM_cons]
    cases ofJson? j with
    | none => rfl
    | some c =>
      cases js.mapM ofJson? with
      | none => rfl
      | some cs => rfl

theorem toJsons_eq_map (cs : List Cell) : toJsons cs = cs.map toJson := by
  induction cs with
  | nil => rfl
  | cons c cs ih => rw [toJsons, ih, List.map_cons]

theorem ofJson?_array (js : List Json) :
    ofJson? (tagged "Array" (.array js)) = (js.mapM ofJson?).map array := by
  rw [tagged, ofJson?, if_pos rfl, ofJsons?_eq_mapM]

/-! ### Exact cells -/

/-- A cell without floating point numbers and documents, whose leap seconds stand behind the last
second of a minute only. -/
inductive Exact : Cell → Prop
  | null : Exact .null
  | bool (b : Bool) : Exact (.bool b)
  | int8 (n : Int8) : Exact (.int8 n)
  | int16 (n : Int16) : Exact (.int16 n)
  | int32 (n : Int32) : Exact (.int32 n)
  | int64 (n : Int64) : Exact (.int64 n)
  | uint64 (n : UInt64) : Exact (.uint64 n)
  | decimal (s : String) : Exact (.decimal s)
  | string (s : String) : Exact (.string s)
  | bytes (data : List UInt8) : Exact (.bytes data)
  | uuid (u : Uuid) : Exact (.uuid u)
  | date (d : Calendar.Date) : Exact (.date d)
  | time {t : Calendar.Time} : t.LeapsLast → Exact (.time t)
  | dateTime {t : Calendar.DateTime} : t.time.LeapsLast → Exact (.dateTime t)
  | dateTimeUtc {t : Calendar.DateTime} : t.time.LeapsLast → Exact (.dateTimeUtc t)
  | array {items : List Cell} : (∀ c ∈ items, Exact c) → Exact (.array items)

/-- A cell of an integer variant is read back from its integer. -/
theorem ofJson?_integer {v : IntegerVariant} {n : Int} (h : v.Holds n) :
    ofJson? (tagged v.name (.int n)) = some (v.cell n) := by
  rw [ofJson?_tagged v.name_ne_array v.name_ne_null, ofContent?_integer,
    Json.intIn?_eq_some_iff.mpr ⟨h, rfl⟩, Option.map_some]

theorem ofJson?_toJson_of_integer {c : Cell} {n : Int} (h : c.integer? = some n) :
    ofJson? (toJson c) = some c := by
  obtain ⟨v, hv, rfl⟩ := IntegerVariant.exists_of_integer? h
  rw [hv.toJson_cell, ofJson?_integer hv]

/-- A cell of a text variant is read back if its text is. -/
theorem TextVariant.ofJson?_toJson (v : TextVariant) {x : v.Value}
    (h : v.read? (v.text x) = some x) : ofJson? (toJson (v.cell x)) = some (v.cell x) := by
  rw [v.toJson_cell, ofJson?_tagged v.name_ne_array v.name_ne_null, ofContent?_text, Json.string?,
    Option.bind_some, h, Option.map_some]

theorem bytes?_map (data : List UInt8) :
    bytes? (.array (data.map fun b => .nat b.toNat)) = some data := by
  rw [bytes?, mapM_map_eq_some, List.map_id]
  intro b _
  have hlow : (0 : Int) ≤ b.toNat := Int.natCast_nonneg _
  have hhigh : (b.toNat : Int) < 256 := by
    have := b.toNat_lt
    omega
  show ((Json.int b.toNat).intIn? 0 256).map _ = some b
  rw [Json.intIn?_eq_some_iff.mpr ⟨⟨hlow, hhigh⟩, rfl⟩, Option.map_some, Int.toNat_natCast,
    UInt8.ofNat_toNat]

/-- **An exact cell is read from the JSON it is written as.** -/
theorem Exact.ofJson?_toJson {c : Cell} (h : Exact c) : ofJson? (toJson c) = some c := by
  induction h with
  | null => rfl
  | bool b => rw [toJson, ofJson?_tagged (by decide) (by decide), ofContent?_bool]; rfl
  | int8 n | int16 n | int32 n | int64 n | uint64 n => exact ofJson?_toJson_of_integer rfl
  | bytes data =>
    rw [toJson, ofJson?_tagged (by decide) (by decide), ofContent?_bytes, bytes?_map,
      Option.map_some]
  | decimal s => exact TextVariant.decimal.ofJson?_toJson rfl
  | string s => exact TextVariant.string.ofJson?_toJson rfl
  | uuid u => exact TextVariant.uuid.ofJson?_toJson (Uuid.read?_text u)
  | date d => exact TextVariant.date.ofJson?_toJson (Calendar.Date.read?_text d)
  | @time t h =>
    have hread := Calendar.Time.read?_text t
    rw [Calendar.Time.carried_of_leapsLast h] at hread
    exact TextVariant.time.ofJson?_toJson hread
  | @dateTime t h =>
    have hread := Calendar.DateTime.read?_isoText t
    rw [Calendar.DateTime.carried_eq_self_iff.mpr h] at hread
    exact TextVariant.dateTime.ofJson?_toJson hread
  | @dateTimeUtc t h =>
    have hread := Calendar.DateTime.readUtc?_isoText t
    rw [Calendar.DateTime.carried_eq_self_iff.mpr h] at hread
    exact TextVariant.dateTimeUtc.ofJson?_toJson hread
  | array _ ih =>
    rw [toJson, ofJson?_array, toJsons_eq_map, mapM_map_eq_some ih, List.map_id', Option.map_some]

theorem readable_tagged {name : String} {j : Json} (h : j.Readable j.depth) :
    (tagged name j).Readable (tagged name j).depth := by
  refine .object (List.pairwise_singleton _ _) fun m hm => ?_
  rw [List.mem_singleton.mp hm]
  exact h.mono (Nat.le_max_left ..)

theorem readable_toJson_of_integer {c : Cell} {n : Int} (h : c.integer? = some n) :
    c.toJson.Readable c.toJson.depth := by
  obtain ⟨v, hv, rfl⟩ := IntegerVariant.exists_of_integer? h
  rw [hv.toJson_cell]
  exact readable_tagged (.number (Json.Number.readsBack_integer hv.bounds.1 hv.bounds.2))

/-- **An exact cell is written as JSON that can be read.** -/
theorem Exact.readable_toJson {c : Cell} (h : Exact c) : c.toJson.Readable c.toJson.depth := by
  induction h with
  | null => exact .string "Null"
  | bool b => exact readable_tagged (.bool b)
  | int8 n | int16 n | int32 n | int64 n | uint64 n => exact readable_toJson_of_integer rfl
  | decimal s | string s => exact readable_tagged (.string s)
  | bytes data =>
    refine readable_tagged (Json.readable_array ?_)
    intro j hj
    obtain ⟨b, -, rfl⟩ := List.mem_map.mp hj
    have := b.toNat_lt
    exact .number (Json.Number.readsBack_integer (by omega) (by omega))
  | uuid u => exact readable_tagged (.string _)
  | date d => exact readable_tagged (.string _)
  | time _ | dateTime _ | dateTimeUtc _ => exact readable_tagged (.string _)
  | array _ ih =>
    refine readable_tagged (Json.readable_array ?_)
    rw [toJsons_eq_map]
    exact List.forall_mem_map.mpr ih

/-- **The text of an exact cell is decoded as that cell**, if the reader goes so deep. -/
theorem Exact.decode?_compact {c : Cell} (h : Exact c)
    (hdepth : c.toJson.depth ≤ Json.nestingLimit) :
    Json.decode? ofJson? c.toJson.compact = some c := by
  rw [Json.decode?_compact ofJson? (h.readable_toJson.mono hdepth), h.ofJson?_toJson]

/-! ### Misfits -/

/-- Content that is no integer in the range of a variant. -/
theorem ofJson?_not_integer {v : IntegerVariant} {j : Json}
    (h : ∀ n, v.Holds n → j ≠ .int n) : ofJson? (tagged v.name j) = none := by
  rw [ofJson?_tagged v.name_ne_array v.name_ne_null, ofContent?_integer]
  cases hj : j.intIn? v.low v.high with
  | none => rfl
  | some n =>
    obtain ⟨hv, rfl⟩ := Json.intIn?_eq_some_iff.mp hj
    exact absurd rfl (h n hv)

/-- **An integer of any size is read by the range of its variant**: as the cell that holds it, or
not at all. -/
theorem decode?_integer (v : IntegerVariant) (n : Int) :
    Json.decode? ofJson? (tagged v.name (.int n)).compact =
      if v.Holds n then some (v.cell n) else none := by
  rw [Json.decode?, tagged, Json.readRaw?_member_int, Option.bind_map]
  split
  · rename_i hv
    rw [Json.Numeral.value?_ofInt_iff.mpr ⟨rfl, hv.bounds⟩]
    exact ofJson?_integer hv
  · rename_i hv
    cases hvalue : (Json.Numeral.ofInt n).value? with
    | none => rfl
    | some m =>
      show ofJson? (tagged v.name (.number m)) = none
      refine ofJson?_not_integer ?_
      rintro k hk ⟨⟩
      obtain ⟨rfl, -⟩ := Json.Numeral.value?_ofInt_iff.mp hvalue
      exact hv hk

/-- JSON in which an integer variant has no integer of its range, or a byte is none: by itself or
among the items of arrays, at any depth. -/
inductive Misfit : Json → Prop
  | integer {v : IntegerVariant} {j : Json} : (∀ n, v.Holds n → j ≠ .int n) →
      Misfit (tagged v.name j)
  | byte {items : List Json} {j : Json} : j ∈ items → (∀ n, 0 ≤ n ∧ n < 256 → j ≠ .int n) →
      Misfit (tagged "Bytes" (.array items))
  | item {items : List Json} {j : Json} : j ∈ items → Misfit j →
      Misfit (tagged "Array" (.array items))

/-- **A misfit is no cell.** -/
theorem Misfit.ofJson?_eq_none {j : Json} (h : Misfit j) : ofJson? j = none := by
  induction h with
  | integer h => exact ofJson?_not_integer h
  | @byte items j hj h =>
    have hbyte : (j.intIn? 0 256).map (fun n => UInt8.ofNat n.toNat) = none := by
      rw [Option.map_eq_none_iff, Option.eq_none_iff_forall_ne_some]
      intro n hn
      obtain ⟨hrange, rfl⟩ := Json.intIn?_eq_some_iff.mp hn
      exact h n hrange rfl
    rw [ofJson?_tagged (by decide) (by decide), ofContent?_bytes, bytes?, mapM_eq_none hj hbyte]
    rfl
  | item hj _ ih => rw [ofJson?_array, mapM_eq_none hj ih, Option.map_none]

end SqlDialect.Cell
