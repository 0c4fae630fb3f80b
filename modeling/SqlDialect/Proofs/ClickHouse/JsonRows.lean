import Mathlib.Data.List.Forall2
import Mathlib.Data.List.TakeWhile
import SqlDialect.ClickHouse.JsonRows
import SqlDialect.Proofs.Json.RoundTrip
import SqlDialect.Proofs.Text.Lines
import SqlDialect.Proofs.Text.Trim
import SqlDialect.Proofs.Text.Utf8
/-!
# Rows from JSON lines

A body is made of lines: blank ones, objects in their compact form, and lines that are
anything else (`Body`). Read back, it is a table of its objects in order, or it fails with its
first line that is no object (`readChunks_body`).

Three facts carry this. The body is cut at its line ends and nowhere else, since a compact
object holds no control character (`Json.Readable.printable`); it is cut only after all chunks
have been joined and decoded (`decodeLossy_encode`); and an object that was written is read as
it was (`Json.Readable.read?_compact`). What is left is that the cells of each row are taken
under the names of the first object (`tabulates_resultOf`).
-/

namespace SqlDialect

open Text (LineEnd EndsIn isBlank trimChars)

/-! ### Tables of objects -/

/-- The cell of an object under a name; a missing one is NULL. -/
def ClickHouse.cellAt (members : List (String × Json)) (name : String) : Cell :=
  ((Json.lookup name members).map ClickHouse.cellOfJson).getD .null

/-- The result is a table of these objects: its columns are the names of the first one, and its
rows hold the cells that the objects have under these names. -/
structure ResultSet.Tabulates (r : ResultSet) (objects : List (List (String × Json))) : Prop where
  names : r.columns.map (·.name) = (objects.head?.getD []).map (·.1)
  distinct : (r.columns.map (·.name)).Nodup
  ordinals : r.columns.map (·.ordinal) = (List.range r.columns.length).map UInt64.ofNat
  rows : List.Forall₂ (fun row members =>
      row.values.length = r.columns.length ∧
      (∀ name ∈ r.columns.map (·.name), row.field? name = some (ClickHouse.cellAt members name)) ∧
      ∀ name ∉ r.columns.map (·.name), row.field? name = none)
    r.rows objects

namespace ResultSet

theorem map_name_columnsFrom (ordinal : UInt64) (names : List String) :
    (columnsFrom ordinal names).map (·.name) = names := by
  induction names generalizing ordinal with
  | nil => rfl
  | cons name names ih => rw [columnsFrom, List.map_cons, ih]

theorem map_ordinal_columnsFrom (n : Nat) (names : List String) :
    (columnsFrom (UInt64.ofNat n) names).map (·.ordinal) =
      (List.range' n names.length).map UInt64.ofNat := by
  induction names generalizing n with
  | nil => rfl
  | cons name names ih =>
    have hnext : UInt64.ofNat n + 1 = UInt64.ofNat (n + 1) := (UInt64.ofNat_add n 1).symm
    rw [columnsFrom, List.map_cons, hnext, ih]
    rfl

end ResultSet

namespace ClickHouse

open Text.Utf8 (encode)

theorem field?_of_mem {names : List String} {name : String} (h : name ∈ names)
    (members : List (String × Json)) :
    (Row.mk names (cellsOf names members)).field? name = some (cellAt members name) := by
  unfold Row.field?
  cases hindex : names.findIdx? (· == name) with
  | none =>
    have hnone := List.findIdx?_eq_none_iff.mp hindex name h
    rw [beq_self_eq_true] at hnone
    cases hnone
  | some index =>
    obtain ⟨hlt, hname, -⟩ := List.findIdx?_eq_some_iff_getElem.mp hindex
    show (names.map fun name => _)[index]? = _
    rw [List.getElem?_map, List.getElem?_eq_getElem hlt, eq_of_beq hname]
    rfl

theorem field?_of_not_mem {names : List String} {name : String} (h : name ∉ names)
    (values : List Cell) : (Row.mk names values).field? name = none := by
  have hnone : names.findIdx? (· == name) = none := by
    rw [List.findIdx?_eq_none_iff]
    intro other hother
    rw [beq_eq_false_iff_ne]
    rintro rfl
    exact h hother
  rw [Row.field?, hnone]

theorem tabulates_resultOf {objects : List (List (String × Json))}
    (h : ∀ members ∈ objects, (members.map (·.1)).Nodup) :
    (resultOf objects).Tabulates objects := by
  let names := (objects.head?.getD []).map (·.1)
  have hnames : (resultOf objects).columns.map (·.name) = names :=
    ResultSet.map_name_columnsFrom 0 names
  have hlength : (resultOf objects).columns.length = names.length := by
    rw [← hnames, List.length_map]
  refine ⟨hnames, ?_, ?_, ?_⟩
  · rw [hnames]
    cases objects with
    | nil => exact List.nodup_nil
    | cons members objects => exact h members (List.mem_cons_self ..)
  · rw [hlength, List.range_eq_range']
    exact ResultSet.map_ordinal_columnsFrom 0 names
  · rw [hnames, hlength]
    show List.Forall₂ _ ((objects.map (cellsOf names)).map (Row.mk names)) objects
    rw [List.map_map, List.forall₂_map_left_iff, List.forall₂_same]
    intro members _
    exact ⟨List.length_map _, fun name hname => field?_of_mem hname members,
      fun name hname => field?_of_not_mem hname _⟩

/-! ### Bodies -/

/-- A line of a body, without its end. -/
inductive BodyLine
  | blank (s : List Char)
  | object (members : List (String × Json))
  /-- Neither blank nor an object. -/
  | stray (s : List Char)

namespace BodyLine

def chars : BodyLine → List Char
  | blank s | stray s => s
  | object members => (Json.object members).chars

/-- Nothing but blanks, an object that can be written and read, or one line of another text. -/
def Proper : BodyLine → Prop
  | blank s => '\n' ∉ s ∧ ∀ c ∈ s, isBlank c = true
  | object members => (Json.object members).Readable Json.nestingLimit
  | stray s => '\n' ∉ s ∧ (∃ c ∈ s, isBlank c = false) ∧
      ∀ members, Json.read? (String.ofList s) ≠ some (.object members)

def object? : BodyLine → Option (List (String × Json))
  | object members => some members
  | _ => none

/-- Why a line is refused: it is no JSON, or JSON but no object. -/
def refusal? : BodyLine → Option DbError
  | stray s =>
    match Json.read? (String.ofList s) with
    | none => some .serialization
    | some j => some (.decode "<row>" "JSON object" j.compact)
  | _ => none

end BodyLine

/-- Lines with their ends, and what follows the last end: a line without one, or nothing, which is
a blank line of no characters. -/
structure Body where
  ended : List (BodyLine × LineEnd)
  last : BodyLine
  proper : ∀ l ∈ ended.map (·.1) ++ [last], l.Proper
  -- A carriage return before a line feed belongs to the line end.
  ends : ∀ l ∈ ended, l.2 = .lf → l.1.chars.getLast? ≠ some '\r'

namespace Body

def lines (b : Body) : List BodyLine := b.ended.map (·.1) ++ [b.last]

def chars (b : Body) : List Char :=
  b.ended.flatMap (fun l => l.1.chars ++ l.2.chars) ++ b.last.chars

end Body

namespace BodyLine

theorem not_mem_newline {l : BodyLine} (h : l.Proper) : '\n' ∉ l.chars := by
  cases l with
  | blank s => exact h.1
  | stray s => exact h.1
  | object members =>
    intro hmem
    exact absurd (Json.Readable.printable h '\n' hmem) (by decide)

theorem lineObject_object {members : List (String × Json)} (h : (object members).Proper) :
    lineObject (object members).chars = .ok members := by
  have hread := Json.Readable.read?_compact h
  unfold lineObject
  rw [show String.ofList (object members).chars = (Json.object members).compact from
    String.ofList_toList, hread]

theorem lineObject_stray {s : List Char} (h : (stray s).Proper) :
    ∃ e, refusal? (stray s) = some e ∧ lineObject (stray s).chars = .error e := by
  cases hread : Json.read? (String.ofList s) with
  | none => exact ⟨_, by rw [refusal?, hread], by rw [lineObject, chars, hread]⟩
  | some j =>
    cases j with
    | object members => exact absurd hread (h.2.2 members)
    | _ => exact ⟨_, by rw [refusal?, hread], by rw [lineObject, chars, hread]⟩

def isBlank : BodyLine → Bool
  | blank _ => true
  | _ => false

theorem isEmpty_trimChars {l : BodyLine} (h : l.Proper) :
    (trimChars l.chars).isEmpty = l.isBlank := by
  rw [Bool.eq_iff_iff, List.isEmpty_iff, Text.trimChars_eq_nil_iff]
  cases l with
  | blank s => exact iff_of_true h.2 rfl
  | object members =>
    refine iff_of_false (fun hall => ?_) Bool.false_ne_true
    have hbrace : '\x7b' ∈ (object members).chars := by
      rw [chars, Json.chars_object]
      exact List.mem_cons_self ..
    have hblank := hall _ hbrace
    revert hblank
    decide
  | stray s =>
    refine iff_of_false (fun hall => ?_) Bool.false_ne_true
    obtain ⟨c, hc, hblank⟩ := h.2.1
    rw [hall c hc] at hblank
    cases hblank

/-- **The objects of proper lines are read in order, up to the first line that is refused.** -/
theorem mapM_lineObject {ls : List BodyLine} (h : ∀ l ∈ ls, l.Proper) :
    ((ls.map chars).filter fun s => !(trimChars s).isEmpty).mapM lineObject =
      match ls.findSome? refusal? with
      | some e => .error e
      | none => .ok (ls.filterMap object?) := by
  induction ls with
  | nil => rfl
  | cons l ls ih =>
    have hl := h l (List.mem_cons_self ..)
    have hblank := isEmpty_trimChars hl
    have ih := ih fun l' hl' => h l' (List.mem_cons_of_mem _ hl')
    rw [List.map_cons]
    cases l with
    | blank s =>
      rw [List.filter_cons_of_neg (by rw [hblank]; exact Bool.false_ne_true), ih]
      rfl
    | object members =>
      rw [List.filter_cons_of_pos (by rw [hblank]; rfl), List.mapM_cons, lineObject_object hl,
        ih, List.findSome?_cons]
      show _ = match ls.findSome? refusal? with
        | some e => Except.error e
        | none => Except.ok (members :: ls.filterMap object?)
      cases ls.findSome? refusal? <;> rfl
    | stray s =>
      obtain ⟨e, he, herror⟩ := lineObject_stray hl
      rw [List.filter_cons_of_pos (by rw [hblank]; rfl), List.mapM_cons, herror,
        List.findSome?_cons, he]
      rfl

end BodyLine

namespace Body

theorem proper_of_mem {b : Body} {l : BodyLine} (h : l ∈ b.lines) : l.Proper := b.proper l h

theorem filter_lines (b : Body) :
    ((Text.lines b.chars).filter fun s => !(trimChars s).isEmpty) =
      (b.lines.map BodyLine.chars).filter fun s => !(trimChars s).isEmpty := by
  have hended : ∀ l ∈ b.ended.map (fun l => (l.1.chars, l.2)), EndsIn l.1 l.2 := by
    rw [List.forall_mem_map]
    intro l hl
    have hproper := b.proper l.1 (List.mem_append_left _ (List.mem_map_of_mem hl))
    exact ⟨BodyLine.not_mem_newline hproper, b.ends l hl⟩
  have hlast := b.proper b.last (List.mem_append_right _ (List.mem_singleton_self _))
  have hcut := Text.lines_append hended (BodyLine.not_mem_newline hlast)
  rw [List.flatMap_map, List.map_map] at hcut
  rw [chars, hcut, lines, List.map_append, List.map_map, List.filter_append, List.filter_append]
  congr 1
  split
  · rename_i hnil
    rw [List.map_singleton, hnil]
    rfl
  · rfl

theorem readRowText_chars (b : Body) :
    readRowText b.chars =
      match b.lines.findSome? BodyLine.refusal? with
      | some e => .error e
      | none => .ok (resultOf (b.lines.filterMap BodyLine.object?)) := by
  unfold readRowText
  dsimp only
  rw [filter_lines, BodyLine.mapM_lineObject fun l hl => proper_of_mem hl]
  cases b.lines.findSome? BodyLine.refusal? <;> rfl

theorem nodup_object {b : Body} {members : List (String × Json)}
    (h : members ∈ b.lines.filterMap BodyLine.object?) : (members.map (·.1)).Nodup := by
  obtain ⟨l, hl, hobject⟩ := List.mem_filterMap.mp h
  have hproper := proper_of_mem hl
  cases l with
  | object ms =>
    cases hobject
    cases hproper with
    | object hnodup _ => exact hnodup
  | _ => cases hobject

end Body

theorem foldl_append (chunks : List (List UInt8)) (acc : List UInt8) :
    chunks.foldl (· ++ ·) acc = acc ++ chunks.flatten := by
  induction chunks generalizing acc with
  | nil => rw [List.foldl_nil, List.flatten_nil, List.append_nil]
  | cons chunk chunks ih => rw [List.foldl_cons, ih, List.flatten_cons, List.append_assoc]

/-- **However a body is cut into chunks, it is read as a table of its objects, or fails with its
first line that is no object.** -/
theorem readChunks_body (b : Body) {chunks : List (List UInt8)}
    (h : chunks.flatten = encode b.chars) :
    match b.lines.findSome? BodyLine.refusal? with
    | some e => readChunks chunks = .error e
    | none => ∃ r, readChunks chunks = .ok r ∧
        r.Tabulates (b.lines.filterMap BodyLine.object?) := by
  have hread : readChunks chunks = readRowText b.chars := by
    rw [readChunks, foldl_append, List.nil_append, h, readRows, Text.Utf8.decodeLossy_encode]
  rw [hread, b.readRowText_chars]
  split
  · rfl
  · exact ⟨_, rfl, tabulates_resultOf fun _ => Body.nodup_object⟩

/-- The first chunk ends within a character, the first line with a carriage return, the second line
is blank, and the last one, which lacks a field, has no end. -/
theorem readChunks_body_of_chunks :
    ∃ r, readChunks [encode "\x7b\"n\":1,\"s\":\"".toList ++ [0xC3],
        0xA9 :: encode "\"\x7d\r\n \n\x7b\"s\":[null]\x7d".toList] = .ok r ∧
      r.Tabulates [[("n", .int 1), ("s", .string "é")], [("s", .array [.null])]] := by
  have hfirst : (Json.object [("n", .int 1), ("s", .string "é")]).Readable Json.nestingLimit :=
    .object (by decide) (List.forall_mem_cons.mpr
      ⟨.number (Json.Number.readsBack_integer (by decide) (by decide)),
        List.forall_mem_singleton.mpr (.string _)⟩)
  have hlast : (Json.object [("s", .array [.null])]).Readable Json.nestingLimit :=
    .object (by decide)
      (List.forall_mem_singleton.mpr (.array (List.forall_mem_singleton.mpr .null)))
  exact readChunks_body
    ⟨[(.object [("n", .int 1), ("s", .string "é")], .crlf), (.blank [' '], .lf)],
      .object [("s", .array [.null])],
      List.forall_mem_cons.mpr ⟨hfirst, List.forall_mem_cons.mpr
        ⟨⟨by decide, List.forall_mem_singleton.mpr (by decide)⟩,
          List.forall_mem_singleton.mpr hlast⟩⟩,
      List.forall_mem_cons.mpr ⟨by simp, List.forall_mem_singleton.mpr fun _ => by decide⟩⟩
    rfl

end ClickHouse

end SqlDialect
