import CheckedTypes.Proofs.CheckedValidity
import CheckedTypes.Proofs.ValidatorPlacement

namespace CheckedTypes

namespace TypeTable

/-- Each part of a value that the type describes is of the kind that the type asks for. A member
that is not required may be null instead, unless it is described by a reference. -/
inductive Fits (table : TypeTable) : TypeNode → Json → Prop
  | null : Fits table .null .null
  | boolean {b} : Fits table .boolean (.boolean b)
  | integer {constraints value x} : value.asBinary64? = some x → x.IsInteger →
      Fits table (.integer constraints) value
  | number {constraints value x} : value.asBinary64? = some x →
      Fits table (.number constraints) value
  | string {constraints text} : Fits table (.string constraints) (.string text)
  | array {items additionalItems constraints elements} :
      (∀ value ∈ elements, Fits table items value) →
      Fits table (.array (some items) additionalItems constraints) (.list elements)
  | object {properties required members} :
      (∀ name node value, properties.lookup name = some node →
        members.lookup name = some value →
        ¬(value = .null ∧ name ∉ required.getD [] ∧ node.isReference = false) →
        Fits table node value) →
      Fits table (.object properties required) (.object members)
  | enumeration {values text} : Fits table (.enumeration values) (.string text)
  | reference {pointer entry value} : table.resolve pointer = .ok entry →
      Fits table entry.node value → Fits table (.reference pointer) value

variable {table : TypeTable}

theorem EndsAt.of_fits {node : TypeNode} {value : Json} (h : Fits table node value) :
    ∃ target, table.EndsAt node target := by
  induction h with
  | reference hr _ ih =>
    obtain ⟨target, he⟩ := ih
    exact ⟨target, .there hr he⟩
  | _ => exact ⟨_, .here rfl⟩

/-- A null only fits a type of nulls. -/
theorem Fits.valid_null {node : TypeNode} (h : Fits table node .null) :
    Valid table node .null := by
  generalize hv : Json.null = value at h
  induction h with
  | null => exact .null
  | reference hr _ ih => exact .reference hr (ih hv)
  | integer hx => simp [← hv, Json.asBinary64?] at hx
  | number hx => simp [← hv, Json.asBinary64?] at hx
  | _ => cases hv

end TypeTable

theorem NumericConstraints.Hold.of_isEmpty {constraints : NumericConstraints} {x : Binary64}
    (h : constraints.isEmpty = true) : constraints.Hold x := by
  rw [← NumericConstraints.admits_iff]
  simp only [NumericConstraints.isEmpty, Bool.and_eq_true, Option.isNone_iff_eq_none] at h
  obtain ⟨⟨least, most⟩, divisor⟩ := h
  simp [NumericConstraints.admits, least, most, divisor]

theorem StringConstraints.Hold.of_isEmpty {constraints : StringConstraints} {text : String}
    (h : constraints.isEmpty = true) : constraints.Hold text := by
  simp only [StringConstraints.isEmpty, StringConstraints.hasLength, Bool.and_eq_true,
    Bool.not_eq_true', Bool.or_eq_false_iff, Option.isSome_eq_false_iff,
    Option.isNone_iff_eq_none] at h
  obtain ⟨⟨least, most⟩, pattern⟩ := h
  exact ⟨by simp [least], by simp [most], by simp [pattern]⟩

theorem ArrayConstraints.Hold.of_isEmpty {constraints : ArrayConstraints} {elements : List Json}
    (h : constraints.isEmpty = true) : constraints.Hold elements := by
  simp only [ArrayConstraints.isEmpty, Bool.and_eq_true, Option.isNone_iff_eq_none,
    Bool.not_eq_true'] at h
  obtain ⟨⟨least, most⟩, unique⟩ := h
  exact ⟨by simp [least], by simp [most], by simp [unique]⟩

end CheckedTypes
