import SqlDialect.NativeType.Basic
import SqlDialect.Proofs.ClickHouse.TypeText
/-!
# Names of types and what stands behind them

The text of a type is its name, and from the first parenthesis on its parameters. A
`PlainName` in front of parameters is found again (`base_append`) and so are they
(`parameters_append`). A type of a table is therefore resolved whatever parameters it has
(`resolve_append`).
-/

namespace SqlDialect

theorem TypeTable.resolve_eq_error_iff {t : TypeTable} {type : String} {e : DbError} :
    t.resolve type = .error e ↔
      ¬(∃ entry, t.resolve type = .ok entry) ∧ e = .unknownDataType t.engine type := by
  unfold resolve
  split
  · simp
  · simp [eq_comm]

namespace ClickHouse

/-- The name of a type, without blanks around it and without a parenthesis. -/
structure PlainName (name : String) : Prop where
  trimmed : Text.Trimmed name.toList
  noParen : '(' ∉ name.toList

theorem head?_parameters (type : String) :
    ∀ c ∈ (TypeTable.parameters type).toList.head?, c = '(' := by
  intro c hc
  rw [TypeTable.parameters, String.toList_ofList] at hc
  have hstop := List.head?_dropWhile_not (· != '(') type.toList
  rw [hc] at hstop
  simpa using hstop

theorem toList_parameters {type : String} {front back : List Char}
    (htype : type.toList = front ++ '(' :: back) (hfront : '(' ∉ front) :
    (TypeTable.parameters type).toList = '(' :: back := by
  rw [TypeTable.parameters, String.toList_ofList, htype,
    List.dropWhile_append_of_pos (TypeText.ne_paren_of_not_mem hfront)]
  rfl

theorem parameters_of_not_mem {type : String} (htype : '(' ∉ type.toList) :
    TypeTable.parameters type = "" := by
  rw [TypeTable.parameters, List.dropWhile_eq_nil_iff.mpr (TypeText.ne_paren_of_not_mem htype)]

theorem takeWhile_name_append {name ps : String} (hname : PlainName name)
    (hps : ∀ c ∈ ps.toList.head?, c = '(') :
    (name ++ ps).toList.takeWhile (· != '(') = name.toList := by
  have hall := TypeText.ne_paren_of_not_mem hname.noParen
  rw [String.toList_append, List.takeWhile_append_of_pos hall]
  cases hs : ps.toList with
  | nil => simp
  | cons c s =>
    obtain rfl := hps c (by rw [hs]; rfl)
    simp

theorem base_append {name ps : String} (hname : PlainName name)
    (hps : ∀ c ∈ ps.toList.head?, c = '(') : TypeTable.base (name ++ ps) = name := by
  rw [TypeTable.base, takeWhile_name_append hname hps, hname.trimmed.trimChars_eq,
    String.ofList_toList]

theorem parameters_append {name ps : String} (hname : PlainName name)
    (hps : ∀ c ∈ ps.toList.head?, c = '(') : TypeTable.parameters (name ++ ps) = ps := by
  have hsplit := List.takeWhile_append_dropWhile (p := (· != '(')) (l := (name ++ ps).toList)
  rw [takeWhile_name_append hname hps, String.toList_append] at hsplit
  have hrest := List.append_cancel_left hsplit
  rw [TypeTable.parameters, String.toList_append, hrest, String.ofList_toList]

/-- **A type of the table is resolved** whatever parameters stand behind its name. -/
theorem resolve_append {t : TypeTable} {entry : NativeType} (hentry : entry ∈ t.entries)
    (hname : PlainName entry.name) {ps : String} (hps : ∀ c ∈ ps.toList.head?, c = '(') :
    t.resolve (entry.name ++ ps) = .ok entry := by
  rw [TypeTable.resolve, base_append hname hps, TypeTable.get?_name hentry]

end ClickHouse

end SqlDialect
