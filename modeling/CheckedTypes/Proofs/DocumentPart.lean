import CheckedTypes.Proofs.FlattenedTable
import CheckedTypes.Proofs.NodePart

namespace CheckedTypes

/-- The patterns of all strings in a type mean something. -/
def TypeNode.Meaningful (node : TypeNode) : Prop :=
  ∀ constraints pattern, (TypeNode.string constraints).Within node →
    constraints.pattern = some pattern → (Regex.ofText? pattern).isSome

namespace SchemaDocument

/-- A document stands in another at some depth: as a property, as items or as a definition. -/
inductive Within (part : SchemaDocument) : SchemaDocument → Prop
  | here : Within part part
  | property {document inner : SchemaDocument} {name} :
      (name, inner) ∈ document.properties.getD [] → Within part inner → Within part document
  | items {document inner : SchemaDocument} :
      document.items = some (.single inner) → Within part inner → Within part document
  | element {document inner : SchemaDocument} {documents} :
      document.items = some (.tuple documents) → inner ∈ documents → Within part inner →
      Within part document
  | definition {document inner : SchemaDocument} {name} :
      (name, inner) ∈ document.children → Within part inner → Within part document

theorem Within.trans {part inner document : SchemaDocument} (h : part.Within inner)
    (h' : inner.Within document) : part.Within document := by
  induction h' with
  | here => exact h
  | property hm _ ih => exact .property hm ih
  | items hi _ ih => exact .items hi ih
  | element hi hm _ ih => exact .element hi hm ih
  | definition hm _ ih => exact .definition hm ih

theorem Defines.within {document definition : SchemaDocument} {path : List String}
    (h : document.Defines path definition) : definition.Within document := by
  induction h with
  | child hm => exact .definition hm .here
  | inner hm _ ih => exact .definition hm ih

/-- In every map of the document the entries have names of their own. -/
structure MapsApart (document : SchemaDocument) : Prop where
  properties : ((document.properties.getD []).map Prod.fst).Nodup
  definitions : ((document.definitions.getD []).map Prod.fst).Nodup
  defs : ((document.defs.getD []).map Prod.fst).Nodup

/-- In every map of the document and of the documents inside it the entries have names of their
own. -/
def NamesApart (document : SchemaDocument) : Prop :=
  ∀ part : SchemaDocument, part.Within document → part.MapsApart

/-- The names in a map are apart, and so are those in its documents. -/
def SectionNamesApart (named : Option (List (String × SchemaDocument))) : Prop :=
  ((named.getD []).map Prod.fst).Nodup ∧
    ∀ name inner, (name, inner) ∈ named.getD [] → inner.NamesApart

def ItemsNamesApart (items : Option (Items SchemaDocument)) : Prop :=
  (∀ inner, items = some (.single inner) → inner.NamesApart) ∧
    ∀ documents, items = some (.tuple documents) → ∀ inner ∈ documents, inner.NamesApart

/-- The names in a document are apart exactly if they are in its own maps and in all documents that
it holds. -/
theorem namesApart_iff {document : SchemaDocument} :
    document.NamesApart ↔ SectionNamesApart document.properties ∧
      ItemsNamesApart document.items ∧ SectionNamesApart document.definitions ∧
      SectionNamesApart document.defs := by
  constructor
  · intro h
    have own := h document .here
    refine ⟨⟨own.properties, fun name inner hm part hw => h part (.property hm hw)⟩,
      ⟨fun inner hi part hw => h part (.items hi hw),
        fun documents hi inner hm part hw => h part (.element hi hm hw)⟩,
      ⟨own.definitions, fun name inner hm part hw =>
        h part (.definition (List.mem_append_left _ hm) hw)⟩,
      ⟨own.defs, fun name inner hm part hw =>
        h part (.definition (List.mem_append_right _ hm) hw)⟩⟩
  · rintro ⟨properties, items, definitions, defs⟩ part hw
    cases hw with
    | here => exact ⟨properties.1, definitions.1, defs.1⟩
    | property hm hw => exact properties.2 _ _ hm part hw
    | items hi hw => exact items.1 _ hi part hw
    | element hi hm hw => exact items.2 _ hi _ hm part hw
    | definition hm hw =>
      rcases List.mem_append.mp hm with hm | hm
      · exact definitions.2 _ _ hm part hw
      · exact defs.2 _ _ hm part hw

theorem toTypeNode_eq (document : SchemaDocument) (location : String) :
    document.toTypeNode location = match document.ref, document.enum with
      | some pointer, _ => .ok (.reference pointer)
      | none, some values => enumeration location document.typeNames values
      | none, none =>
        match typeKind location document.typeNames document.properties.isSome with
        | .error fault => .error fault
        | .ok .null => .ok .null
        | .ok .boolean => .ok .boolean
        | .ok .integer => .ok (.integer document.numeric.constraints)
        | .ok .number => .ok (.number document.numeric.constraints)
        | .ok .string => stringType location document.string
        | .ok .array => (itemsNode location document.items).map
            (TypeNode.array · document.additionalItems.isSome document.array)
        | .ok .object => (propertyNodes location (document.properties.getD [])).map
            (.object · document.required) := by
  obtain ⟨_, _, _, properties, _, _, _, _, _, _, _, _⟩ := document
  rw [toTypeNode.eq_def]
  cases properties <;> rfl

theorem propertyNodes_eq_ok_iff {location : String} {properties : List (String × SchemaDocument)}
    {nodes : List (String × TypeNode)} :
    propertyNodes location properties = .ok nodes ↔ List.Forall₂ (fun property node =>
      node.1 = property.1 ∧
        property.2.toTypeNode (location ++ "/properties/" ++ property.1) = .ok node.2)
      properties nodes := by
  induction properties generalizing nodes with
  | nil => simp [propertyNodes, eq_comm]
  | cons property rest ih =>
    obtain ⟨name, document⟩ := property
    rw [propertyNodes]
    constructor
    · intro h
      split at h
      next => cases h
      next node hn =>
        obtain ⟨others, ho, rfl⟩ := exists_of_map_eq_ok h
        exact .cons ⟨rfl, hn⟩ (ih.mp ho)
    · intro h
      cases h with
      | @cons _ node _ others first more =>
        obtain ⟨rfl, hn⟩ := first
        rw [hn, ih.mpr more]
        rfl

theorem enumeration_of_eq_ok {location : String} {typeNames : Option TypeNames}
    {values : List Json} {node : TypeNode}
    (h : enumeration location typeNames values = .ok node) :
    ∃ names, node = .enumeration names := by
  unfold enumeration at h
  split at h
  next =>
    split at h
    next => cases h
    next =>
      obtain ⟨names, -, rfl⟩ := exists_of_map_eq_ok h
      exact ⟨names, rfl⟩
  next => cases h

theorem stringType_eq_ok_iff {location : String} {constraints : StringConstraints}
    {node : TypeNode} :
    stringType location constraints = .ok node ↔ node = .string constraints ∧
      ∀ pattern, constraints.pattern = some pattern → (Regex.ofText? pattern).isSome := by
  have meaningful : (constraints.pattern.all fun pattern => (Regex.ofText? pattern).isSome) = true ↔
      ∀ pattern, constraints.pattern = some pattern → (Regex.ofText? pattern).isSome := by
    rw [Option.all_eq_true]
  unfold stringType
  rw [← meaningful]
  split
  next ht => simp only [Except.ok.injEq, ht, and_true, eq_comm]
  next hf => simp only [reduceCtorEq, hf, and_false]

/-- How a type with parts and a string come about. -/
theorem toTypeNode_cases {document : SchemaDocument} {location : String} {node : TypeNode}
    (h : document.toTypeNode location = .ok node) :
    (node.isComposite = false ∧ ∀ constraints, node ≠ .string constraints) ∨
      stringType location document.string = .ok node ∨
      (∃ items, itemsNode location document.items = .ok items ∧
        node = .array items document.additionalItems.isSome document.array) ∨
      ∃ properties, propertyNodes location (document.properties.getD []) = .ok properties ∧
        node = .object properties document.required := by
  rw [toTypeNode_eq] at h
  split at h
  next =>
    cases h
    exact .inl ⟨rfl, nofun⟩
  next =>
    obtain ⟨names, rfl⟩ := enumeration_of_eq_ok h
    exact .inl ⟨rfl, nofun⟩
  next =>
    split at h
    next => cases h
    next => cases h; exact .inl ⟨rfl, nofun⟩
    next => cases h; exact .inl ⟨rfl, nofun⟩
    next => cases h; exact .inl ⟨rfl, nofun⟩
    next => cases h; exact .inl ⟨rfl, nofun⟩
    next => exact .inr (.inl h)
    next =>
      obtain ⟨items, hi, rfl⟩ := exists_of_map_eq_ok h
      exact .inr (.inr (.inl ⟨items, hi, rfl⟩))
    next =>
      obtain ⟨properties, hp, rfl⟩ := exists_of_map_eq_ok h
      exact .inr (.inr (.inr ⟨properties, hp, rfl⟩))

section

variable {document : SchemaDocument} {location : String}

theorem items_of_toTypeNode {items : TypeNode} {additionalItems : Bool}
    {constraints : ArrayConstraints}
    (h : document.toTypeNode location = .ok (.array (some items) additionalItems constraints)) :
    ∃ inner, document.items = some (.single inner) ∧
      inner.toTypeNode (location ++ "/items") = .ok items := by
  rcases toTypeNode_cases h with ⟨flat, -⟩ | h | ⟨found, hi, he⟩ | ⟨_, -, he⟩
  · cases flat
  · cases (stringType_eq_ok_iff.mp h).1
  · cases he
    cases hd : document.items with
    | none =>
      rw [hd, itemsNode] at hi
      cases hi
    | some given =>
      rw [hd] at hi
      cases given with
      | tuple documents =>
        rw [itemsNode] at hi
        cases hi
      | single inner =>
        rw [itemsNode] at hi
        obtain ⟨node, hn, he⟩ := exists_of_map_eq_ok hi
        cases he
        exact ⟨inner, rfl, hn⟩
  · cases he

theorem properties_of_toTypeNode {properties : List (String × TypeNode)}
    {required : Option (List String)}
    (h : document.toTypeNode location = .ok (.object properties required)) :
    propertyNodes location (document.properties.getD []) = .ok properties := by
  rcases toTypeNode_cases h with ⟨flat, -⟩ | h | ⟨_, -, he⟩ | ⟨found, hp, he⟩
  · cases flat
  · cases (stringType_eq_ok_iff.mp h).1
  · cases he
  · cases he
    exact hp

theorem string_of_toTypeNode {constraints : StringConstraints}
    (h : document.toTypeNode location = .ok (.string constraints)) :
    ∀ pattern, constraints.pattern = some pattern → (Regex.ofText? pattern).isSome := by
  rcases toTypeNode_cases h with ⟨-, other⟩ | h | ⟨_, -, he⟩ | ⟨_, -, he⟩
  · exact absurd rfl (other constraints)
  · obtain ⟨same, meaningful⟩ := stringType_eq_ok_iff.mp h
    cases same
    exact meaningful
  · cases he
  · cases he

/-- Every part of the type of a document is the type of a document inside it. -/
theorem exists_within_of_toTypeNode {node part : TypeNode}
    (h : document.toTypeNode location = .ok node) (hw : part.Within node) :
    ∃ (inner : SchemaDocument) (place : String),
      inner.Within document ∧ inner.toTypeNode place = .ok part := by
  induction hw generalizing document location with
  | here => exact ⟨document, location, .here, h⟩
  | items _ ih =>
    obtain ⟨inner, hi, hn⟩ := items_of_toTypeNode h
    obtain ⟨last, place, hl, hp⟩ := ih hn
    exact ⟨last, place, .items hi hl, hp⟩
  | property hm _ ih =>
    have listed := propertyNodes_eq_ok_iff.mp (properties_of_toTypeNode h)
    obtain ⟨⟨name, inner⟩, hd, -, hn⟩ := exists_left_of_forall₂ listed hm
    obtain ⟨last, place, hl, hp⟩ := ih hn
    exact ⟨last, place, .property hd hl, hp⟩

theorem meaningful_toTypeNode {node : TypeNode} (h : document.toTypeNode location = .ok node) :
    node.Meaningful := by
  intro constraints pattern hw hp
  obtain ⟨inner, place, -, hn⟩ := exists_within_of_toTypeNode h hw
  exact string_of_toTypeNode hn pattern hp

end

/-- Every type of a table is the type of a document inside the one that it was made from. -/
theorem exists_within_of_toTypeTable {document : SchemaDocument} {root : Option String}
    {table : TypeTable} (h : document.toTypeTable root = .ok table) {entry : TypeEntry}
    (hm : entry ∈ table.entries) :
    ∃ (inner : SchemaDocument) (place : String),
      inner.Within document ∧ inner.toTypeNode place = .ok entry.node := by
  rcases (mem_of_toTypeTable h).mp hm with ⟨-, name, node, -, hn, rfl⟩ |
    ⟨path, definition, node, hd, hn, rfl⟩
  · exact ⟨document, "#", .here, hn⟩
  · exact ⟨definition, definitionLocation path, hd.within, hn⟩

theorem meaningful_toTypeTable {document : SchemaDocument} {root : Option String}
    {table : TypeTable} (h : document.toTypeTable root = .ok table) {entry : TypeEntry}
    (hm : entry ∈ table.entries) : entry.node.Meaningful := by
  obtain ⟨inner, place, -, hn⟩ := exists_within_of_toTypeTable h hm
  exact meaningful_toTypeNode hn

end SchemaDocument

end CheckedTypes
