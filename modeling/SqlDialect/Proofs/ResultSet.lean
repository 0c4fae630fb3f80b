import SqlDialect.ResultSet
import SqlDialect.Proofs.Traversal
/-!
# Faults of rows

A `Field` is a column that a row is to hold and the form its value is to have. It has
a fault in a row if the value there has another form, and the fault is an error that
names the column, what was expected and what was found. The decoders of rows fail with
the faults of their fields and with nothing else (`decodeString_eq_error_iff` and the
ones after it).

A `Reading` is what one result is read for: some fields, of all its rows or of the
first one.
-/

namespace SqlDialect

/-- What is expected of a value. -/
inductive Form
  | text
  /-- Anything shown as a text, or nothing. -/
  | optionalText
  | flag
  | count
  deriving DecidableEq

namespace Form

def accepts : Form → Option Cell → Bool
  | text, some (.string _) => true
  | text, _ => false
  | optionalText, some (.bytes _) | optionalText, some (.array _)
  | optionalText, some (.json _) => false
  | optionalText, _ => true
  | flag, none | flag, some .null | flag, some (.bool _) => true
  | flag, some c => c.int64? == some 0 || c.int64? == some 1
  | count, none | count, some .null => true
  | count, some c => c.uint64?.isSome

def expected : Form → String
  | text | optionalText => "string"
  | flag => "0 or 1"
  | count => "unsigned integer"

/-- What is told of a value that has not the form. -/
def found : Form → Option Cell → String
  | _, none => "missing column"
  | flag, some c => c.text
  | _, some c => c.kind

end Form

structure Field where
  name : String
  form : Form

/-- The error for a field that a row does not hold in its form. -/
def Field.fault? (field : Field) (r : Row) : Option DbError :=
  if field.form.accepts (r.field? field.name) then none
  else some (.decode field.name field.form.expected (field.form.found (r.field? field.name)))

/-- What a result is read for. -/
structure Reading where
  fields : List Field
  firstRow : Bool := false

def Reading.rows (reading : Reading) (result : ResultSet) : List Row :=
  if reading.firstRow then result.rows.take 1 else result.rows

/-- The fault of the first field that has one in the first row that has one. -/
def Reading.fault? (reading : Reading) (result : ResultSet) : Option DbError :=
  (reading.rows result).findSome? fun r => reading.fields.findSome? (·.fault? r)

namespace Row

variable {r : Row} {name : String} {e : DbError}

theorem decodeString_eq_error_iff :
    r.decodeString name = .error e ↔ (Field.mk name .text).fault? r = some e := by
  unfold decodeString Field.fault?
  rcases r.field? name with _ | c
  · simp [Form.accepts, Form.expected, Form.found]
  · cases c <;> simp [Form.accepts, Form.expected, Form.found]

theorem decodeString?_eq_error_iff :
    r.decodeString? name = .error e ↔ (Field.mk name .optionalText).fault? r = some e := by
  unfold decodeString? Field.fault?
  rcases r.field? name with _ | c
  · simp [Form.accepts]
  · cases c <;> simp [Form.accepts, Form.expected, Form.found]

theorem decodeFlag_eq_error_iff :
    r.decodeFlag name = .error e ↔ (Field.mk name .flag).fault? r = some e := by
  unfold decodeFlag Field.fault?
  rcases r.field? name with _ | c
  · simp [Form.accepts]
  · have hcell : (if c.int64? = some 0 then Except.ok false
        else if c.int64? = some 1 then .ok true else .error (.decode name "0 or 1" c.text)) =
          .error e ↔
        (if c.int64? == some 0 || c.int64? == some 1 then none
          else some (DbError.decode name "0 or 1" c.text)) = some e := by
      by_cases hzero : c.int64? = some 0
      · simp [hzero]
      · by_cases hone : c.int64? = some 1
        · simp [hone]
        · simp [hzero, hone]
    cases c with
    | null => simp [Form.accepts]
    | bool b => simp [Form.accepts]
    | _ => exact hcell

theorem decodeCount?_eq_error_iff :
    r.decodeCount? name = .error e ↔ (Field.mk name .count).fault? r = some e := by
  unfold decodeCount? Field.fault?
  rcases r.field? name with _ | c
  · simp [Form.accepts]
  · cases hnumber : c.uint64? with
    | none => cases c <;> simp [Form.accepts, Form.expected, Form.found, hnumber]
    | some n => cases c <;> simp [Form.accepts, hnumber]

/-- Of fields that are decoded in a row the first one with a fault counts. -/
theorem bind_eq_error_iff {α β : Type} {field : Field} {fields : List Field}
    {x : Except DbError α} {f : α → Except DbError β}
    (hx : ∀ e, x = .error e ↔ field.fault? r = some e)
    (hf : ∀ a e, f a = .error e ↔ fields.findSome? (·.fault? r) = some e) :
    (x >>= f) = .error e ↔ (field :: fields).findSome? (·.fault? r) = some e := by
  rw [List.findSome?_cons]
  cases x with
  | error e' =>
    rw [(hx e').mp rfl]
    exact (Except.error.injEq e' e).to_iff.trans (Option.some.injEq e' e).to_iff.symm
  | ok a =>
    have hnone : field.fault? r = none := by
      rw [Option.eq_none_iff_forall_ne_some]
      intro e' he'
      cases (hx e').mpr he'
    rw [hnone]
    exact hf a e

theorem pure_eq_error_iff {α : Type} {a : α} :
    (pure a : Except DbError α) = .error e ↔ [].findSome? (Field.fault? · r) = some e := by
  simp [pure, Except.pure]

end Row

/-! ### Readings -/

section

variable {α : Type} {f : Row → Except DbError α} {fields : List Field} {result : ResultSet}
  {e : DbError}

/-- A decoder of rows, used on all of them. -/
theorem mapM_rows_eq_error_iff
    (hf : ∀ r e, f r = .error e ↔ fields.findSome? (·.fault? r) = some e) :
    result.rows.mapM f = .error e ↔ (Reading.mk fields false).fault? result = some e :=
  mapM_eq_error_iff hf

/-- A decoder of rows, used on the first one. -/
theorem head?_eq_error_iff {default : Except DbError α} (hdefault : ∀ e, default ≠ .error e)
    (hf : ∀ r e, f r = .error e ↔ fields.findSome? (·.fault? r) = some e) :
    (match result.rows.head? with
      | none => default
      | some r => f r) = .error e ↔ (Reading.mk fields true).fault? result = some e := by
  rw [Reading.fault?, Reading.rows, if_pos rfl]
  cases result.rows with
  | nil => simp [hdefault]
  | cons r rows => simp [hf]

end

end SqlDialect
