import CheckedTypes.Proofs.DocumentPart

namespace CheckedTypes

/-- Why a document describes no type, apart from where it stands. -/
inductive Refusal where
  | unsupported (reason : String)
  | misshapen (reason : String)

def Refusal.raised (location : String) : Refusal → GenerateError
  | unsupported reason => .unsupportedShape location reason
  | misshapen reason => .schemaShape location reason

/-- A step from a document to one that describes a part of its type. -/
inductive SchemaStep where
  | items
  | property (name : String)

def SchemaStep.text : SchemaStep → String
  | items => "/items"
  | property name => "/properties/" ++ name

def schemaPathText (path : List SchemaStep) : String :=
  String.join (path.map SchemaStep.text)

namespace SchemaDocument

/-- The keywords of a document describe a type of some kind, and neither a reference nor an
enumeration hides them. Properties alone make an object. -/
inductive HasKind (document : SchemaDocument) : TypeKind → Prop
  | named {names name kind} : document.ref = none → document.enum = none →
      document.typeNames = some names → names.single? = some name →
      TypeKind.ofName? name = some kind → HasKind document kind
  | implied : document.ref = none → document.enum = none → document.typeNames = none →
      document.properties.isSome → HasKind document .object

/-- An enumeration may stand beside the name of its type, which is that of strings. -/
def DeclaresString (document : SchemaDocument) : Prop :=
  ∀ names, document.typeNames = some names → names.single? = some "string"

/-- The document itself describes no type, whatever the documents inside it are. -/
inductive Refused (document : SchemaDocument) : Refusal → Prop
  | enumType {values} : document.ref = none → document.enum = some values →
      ¬document.DeclaresString → Refused document (.unsupported "only support string enum")
  | emptyEnum : document.ref = none → document.enum = some [] → document.DeclaresString →
      Refused document (.misshapen "enum must list at least one value")
  | enumLiteral {values value} : document.ref = none → document.enum = some values →
      document.DeclaresString → value ∈ values → (∀ literal, value ≠ .string literal) →
      Refused document (.unsupported "only support string enum")
  | untyped : document.ref = none → document.enum = none → document.typeNames = none →
      document.properties = none → Refused document (.misshapen "must define type impl")
  | typeList {names} : document.ref = none → document.enum = none →
      document.typeNames = some names → names.single? = none →
      Refused document (.unsupported "multiple type is not supported")
  | unknownType {names name} : document.ref = none → document.enum = none →
      document.typeNames = some names → names.single? = some name → TypeKind.ofName? name = none →
      Refused document (.unsupported ("unknown type " ++ name))
  | pattern {pattern} : document.HasKind .string → document.string.pattern = some pattern →
      Regex.ofText? pattern = none → Refused document (.misshapen "invalid pattern")
  | tuple {documents} : document.HasKind .array → document.items = some (.tuple documents) →
      Refused document (.unsupported "only support single type array")

/-- Steps lead from a document to one that is looked at for its type. Of the properties that are
listed before one on the way, something holds. -/
inductive Leads (passed : SchemaDocument → Prop) :
    SchemaDocument → List SchemaStep → SchemaDocument → Prop
  | here {document} : Leads passed document [] document
  | items {document inner last : SchemaDocument} {path} : document.HasKind .array →
      document.items = some (.single inner) → Leads passed inner path last →
      Leads passed document (.items :: path) last
  | property {document inner last : SchemaDocument} {before after name path} :
      document.HasKind .object → document.properties = some (before ++ (name, inner) :: after) →
      (∀ property ∈ before, passed property.2) → Leads passed inner path last →
      Leads passed document (.property name :: path) last

/-- The document describes a type, which does not depend on where it stands. -/
def Describes (document : SchemaDocument) : Prop :=
  ∃ node, ∀ location, document.toTypeNode location = .ok node

section

variable {document last : SchemaDocument} {refusal : Refusal} {path : List SchemaStep}

theorem schemaPathText_cons (location : String) (step : SchemaStep) (path : List SchemaStep) :
    location ++ schemaPathText (step :: path) = location ++ step.text ++ schemaPathText path := by
  rw [schemaPathText, List.map_cons, String.join_cons, String.append_assoc]
  rfl

theorem declaresString_iff : document.DeclaresString ↔
    document.typeNames.all (fun names => names.single? == some "string") = true := by
  simp [DeclaresString, Option.all_eq_true]

theorem literals_cases (values : List Json) :
    (∃ names, ∀ location, literals location values = .ok names) ∨
      ∃ value ∈ values, ∀ literal, value ≠ .string literal := by
  induction values with
  | nil => exact .inl ⟨[], fun _ => rfl⟩
  | cons value rest ih =>
    cases value with
    | string literal =>
      rcases ih with ⟨names, read⟩ | ⟨value, hm, other⟩
      · exact .inl ⟨literal :: names, fun location => by rw [literals, read]; rfl⟩
      · exact .inr ⟨value, List.mem_cons_of_mem _ hm, other⟩
    | _ => exact .inr ⟨_, List.mem_cons_self, by simp⟩

theorem literals_eq_error {values : List Json} {value : Json} (hm : value ∈ values)
    (other : ∀ literal, value ≠ .string literal) (location : String) :
    literals location values =
      .error (.unsupportedShape location "only support string enum") := by
  induction values with
  | nil => cases hm
  | cons first rest ih =>
    cases first with
    | string literal =>
      rcases List.mem_cons.mp hm with rfl | hm
      · exact absurd rfl (other literal)
      · rw [literals, ih hm]
        rfl
    | _ => rfl

theorem toTypeNode_of_hasKind {kind : TypeKind} (h : document.HasKind kind) (location : String) :
    document.toTypeNode location = match kind with
      | .null => .ok .null
      | .boolean => .ok .boolean
      | .integer => .ok (.integer document.numeric.constraints)
      | .number => .ok (.number document.numeric.constraints)
      | .string => stringType location document.string
      | .array => (itemsNode location document.items).map
          (TypeNode.array · document.additionalItems.isSome document.array)
      | .object => (propertyNodes location (document.properties.getD [])).map
          (.object · document.required) := by
  have chosen : document.ref = none ∧ document.enum = none ∧
      typeKind location document.typeNames document.properties.isSome = .ok kind := by
    cases h with
    | named noReference noEnum named single known =>
      exact ⟨noReference, noEnum, by simp [typeKind, named, single, known]⟩
    | implied noReference noEnum untyped listed =>
      exact ⟨noReference, noEnum, by simp [typeKind, untyped, listed]⟩
  obtain ⟨noReference, noEnum, chosen⟩ := chosen
  rw [toTypeNode_eq, noReference, noEnum, chosen]
  cases kind <;> rfl

/-- What is refused for itself is an error wherever it stands. -/
theorem Refused.raised (h : document.Refused refusal) (location : String) :
    document.toTypeNode location = .error (refusal.raised location) := by
  cases h with
  | enumType noReference listed undeclared =>
    rw [toTypeNode_eq, noReference, listed]
    exact if_neg (mt declaresString_iff.mpr undeclared)
  | emptyEnum noReference listed declared =>
    rw [toTypeNode_eq, noReference, listed]
    exact if_pos (declaresString_iff.mp declared)
  | @enumLiteral values value noReference listed declared hm other =>
    have some : values.isEmpty = false := List.isEmpty_eq_false_iff_exists_mem.mpr ⟨value, hm⟩
    rw [toTypeNode_eq, noReference, listed]
    dsimp only
    rw [enumeration, if_pos (declaresString_iff.mp declared), some, literals_eq_error hm other]
    rfl
  | untyped noReference noEnum untyped bare =>
    rw [toTypeNode_eq, noReference, noEnum, untyped, bare]
    rfl
  | typeList noReference noEnum named several =>
    rw [toTypeNode_eq, noReference, noEnum, named]
    simp [typeKind, several, Refusal.raised]
  | unknownType noReference noEnum named single unknown =>
    rw [toTypeNode_eq, noReference, noEnum, named]
    simp [typeKind, single, unknown, Refusal.raised]
  | pattern kind hp meaningless =>
    rw [toTypeNode_of_hasKind kind]
    simp [stringType, hp, meaningless, Refusal.raised]
  | tuple kind hi =>
    rw [toTypeNode_of_hasKind kind, hi]
    rfl

theorem propertyNodes_eq_error {before after : List (String × SchemaDocument)} {name : String}
    {inner : SchemaDocument} (passed : ∀ property ∈ before, property.2.Describes)
    {location : String} {fault : GenerateError}
    (raised : inner.toTypeNode (location ++ (SchemaStep.property name).text) = .error fault) :
    propertyNodes location (before ++ (name, inner) :: after) = .error fault := by
  induction before with
  | nil =>
    have here : location ++ "/properties/" ++ name = location ++ (SchemaStep.property name).text :=
      String.append_assoc
    rw [List.nil_append, propertyNodes, here, raised]
  | cons property rest ih =>
    obtain ⟨other, document⟩ := property
    obtain ⟨⟨node, lowered⟩, passed⟩ := List.forall_mem_cons.mp passed
    rw [List.cons_append, propertyNodes, lowered, ih passed]
    rfl

/-- The error of a document on the way is that of the document at its end. -/
theorem Leads.raised (h : document.Leads Describes path last)
    (refused : ∀ location, last.toTypeNode location = .error (refusal.raised location))
    (location : String) :
    document.toTypeNode location = .error (refusal.raised (location ++ schemaPathText path)) := by
  induction h generalizing location with
  | here => rw [refused, schemaPathText, List.map_nil, String.join_nil, String.append_empty]
  | items kind hi _ ih =>
    have inner := ih refused (location ++ "/items")
    rw [toTypeNode_of_hasKind kind, hi, schemaPathText_cons]
    dsimp only
    rw [itemsNode, inner]
    rfl
  | @property _ _ _ _ _ name _ kind hp passed _ ih =>
    have inner := ih refused (location ++ (SchemaStep.property name).text)
    rw [toTypeNode_of_hasKind kind, hp, schemaPathText_cons]
    dsimp only
    rw [Option.getD_some, propertyNodes_eq_error passed inner]
    rfl

/-- Either a document describes a type, or a document inside it is refused and all that comes before
it does not stand in the way. -/
def Settled (document : SchemaDocument) : Prop :=
  document.Describes ∨
    ∃ path last refusal, document.Leads Describes path last ∧ last.Refused refusal

theorem Refused.settled (h : document.Refused refusal) : document.Settled :=
  .inr ⟨[], document, refusal, .here, h⟩

theorem settled_of_enum {values : List Json} (noReference : document.ref = none)
    (listed : document.enum = some values) : document.Settled := by
  by_cases declared : document.DeclaresString
  · cases values with
    | nil => exact (Refused.emptyEnum noReference listed declared).settled
    | cons value rest =>
      rcases literals_cases (value :: rest) with ⟨names, read⟩ | ⟨other, hm, odd⟩
      · refine .inl ⟨.enumeration names, fun location => ?_⟩
        rw [toTypeNode_eq, noReference, listed]
        dsimp only
        rw [enumeration, if_pos (declaresString_iff.mp declared), if_neg (by simp), read]
        rfl
      · exact (Refused.enumLiteral noReference listed declared hm odd).settled
  · exact (Refused.enumType noReference listed declared).settled

/-- A document to which none of the keywords gives a kind is refused itself. -/
theorem hasKind_or_settled (noReference : document.ref = none) (noEnum : document.enum = none) :
    (∃ kind, document.HasKind kind) ∨ document.Settled := by
  cases hn : document.typeNames with
  | none =>
    cases hp : document.properties with
    | some properties => exact .inl ⟨.object, .implied noReference noEnum hn (by simp [hp])⟩
    | none => exact .inr (Refused.untyped noReference noEnum hn hp).settled
  | some names =>
    cases hs : names.single? with
    | none => exact .inr (Refused.typeList noReference noEnum hn hs).settled
    | some name =>
      cases hk : TypeKind.ofName? name with
      | some kind => exact .inl ⟨kind, .named noReference noEnum hn hs hk⟩
      | none => exact .inr (Refused.unknownType noReference noEnum hn hs hk).settled

theorem settled_of_string (kind : document.HasKind .string) : document.Settled := by
  cases hp : document.string.pattern with
  | none =>
    refine .inl ⟨.string document.string, fun location => ?_⟩
    simp [toTypeNode_of_hasKind kind, stringType, hp]
  | some pattern =>
    cases hr : Regex.ofText? pattern with
    | none => exact (Refused.pattern kind hp hr).settled
    | some regex =>
      refine .inl ⟨.string document.string, fun location => ?_⟩
      simp [toTypeNode_of_hasKind kind, stringType, hp, hr]

theorem settled_of_array (kind : document.HasKind .array)
    (each : ∀ inner, document.items = some (.single inner) → inner.Settled) :
    document.Settled := by
  have describes {items : Option TypeNode}
      (lowered : ∀ location, itemsNode location document.items = .ok items) : document.Settled :=
    .inl ⟨.array items document.additionalItems.isSome document.array, fun location => by
      rw [toTypeNode_of_hasKind kind, lowered]; rfl⟩
  cases hi : document.items with
  | none => exact describes fun location => by rw [hi]; rfl
  | some items =>
    cases items with
    | tuple documents => exact (Refused.tuple kind hi).settled
    | single inner =>
      rcases each inner hi with ⟨node, lowered⟩ | ⟨path, last, refusal, leads, refused⟩
      · exact describes fun location => by rw [hi, itemsNode, lowered]; rfl
      · exact .inr ⟨.items :: path, last, refusal, .items kind hi leads, refused⟩

/-- All properties describe types, or there is a first that does not. -/
theorem properties_cases {properties : List (String × SchemaDocument)}
    (each : ∀ property ∈ properties, property.2.Settled) :
    (∃ nodes, ∀ location, propertyNodes location properties = .ok nodes) ∨
      ∃ before name inner after path last refusal, properties = before ++ (name, inner) :: after ∧
        (∀ property ∈ before, property.2.Describes) ∧ inner.Leads Describes path last ∧
        last.Refused refusal := by
  induction properties with
  | nil => exact .inl ⟨[], fun _ => rfl⟩
  | cons property rest ih =>
    obtain ⟨name, inner⟩ := property
    obtain ⟨here, each⟩ := List.forall_mem_cons.mp each
    rcases here with describes | ⟨path, last, refusal, blamed⟩
    · rcases ih each with ⟨nodes, others⟩ | ⟨before, other, found, after, path, last, refusal, rfl,
        passed, blamed⟩
      · obtain ⟨node, lowered⟩ := describes
        exact .inl ⟨(name, node) :: nodes, fun location => by
          rw [propertyNodes, lowered, others]; rfl⟩
      · exact .inr ⟨(name, inner) :: before, other, found, after, path, last, refusal, rfl,
          List.forall_mem_cons.mpr ⟨describes, passed⟩, blamed⟩
    · exact .inr ⟨[], name, inner, rest, path, last, refusal, rfl, by simp, blamed⟩

theorem settled_of_object (kind : document.HasKind .object)
    (each : ∀ property ∈ document.properties.getD [], property.2.Settled) :
    document.Settled := by
  rcases properties_cases each with ⟨nodes, others⟩ |
    ⟨before, name, inner, after, path, last, refusal, split, passed, leads, refused⟩
  · exact .inl ⟨.object nodes document.required, fun location => by
      rw [toTypeNode_of_hasKind kind, others]; rfl⟩
  · have listed : document.properties = some (before ++ (name, inner) :: after) := by
      cases hp : document.properties with
      | none => simp [hp] at split
      | some properties => simpa [hp] using split
    exact .inr ⟨.property name :: path, last, refusal, .property kind listed passed leads, refused⟩

end

theorem sizeOf_lt_of_items {document inner : SchemaDocument}
    (h : document.items = some (.single inner)) : sizeOf inner < sizeOf document := by
  cases document
  subst h
  simp only [SchemaDocument.mk.sizeOf_spec, Option.some.sizeOf_spec, Items.single.sizeOf_spec]
  omega

theorem sizeOf_lt_of_property {document : SchemaDocument} {property : String × SchemaDocument}
    (h : property ∈ document.properties.getD []) : sizeOf property.2 < sizeOf document := by
  have inside := sizeOf_lt_of_mem_section h
  cases document
  simp only [SchemaDocument.mk.sizeOf_spec] at inside ⊢
  omega

theorem settled (document : SchemaDocument) : document.Settled := by
  cases hr : document.ref with
  | some pointer =>
    exact .inl ⟨.reference pointer, fun location => by rw [toTypeNode_eq, hr]⟩
  | none =>
    cases he : document.enum with
    | some values => exact settled_of_enum hr he
    | none =>
      refine (hasKind_or_settled hr he).elim (fun ⟨kind, h⟩ => ?_) id
      cases kind with
      | null | boolean | integer | number => exact .inl ⟨_, toTypeNode_of_hasKind h⟩
      | string => exact settled_of_string h
      | array => exact settled_of_array h fun inner hi => settled inner
      | object => exact settled_of_object h fun property hm => settled property.2
termination_by sizeOf document
decreasing_by
  · exact sizeOf_lt_of_items hi
  · exact sizeOf_lt_of_property hm

/-- What describes a type in one place does so everywhere. -/
theorem describes_of_eq_ok {document : SchemaDocument} {location : String} {node : TypeNode}
    (h : document.toTypeNode location = .ok node) : document.Describes := by
  refine document.settled.resolve_right fun ⟨path, last, refusal, leads, refused⟩ => ?_
  cases (leads.raised refused.raised location).symm.trans h

/-- A document that is refused spoils every document that it is a part of. -/
theorem Leads.not_describes {passed : SchemaDocument → Prop} {document last : SchemaDocument}
    {path : List SchemaStep} (h : document.Leads passed path last) {refusal : Refusal}
    (refused : last.Refused refusal) : ¬document.Describes := by
  induction h with
  | here =>
    rintro ⟨node, lowered⟩
    cases (refused.raised "").symm.trans (lowered "")
  | items kind hi _ ih =>
    rintro ⟨node, lowered⟩
    have lowered := lowered ""
    rw [toTypeNode_of_hasKind kind, hi] at lowered
    obtain ⟨_, found, -⟩ := exists_of_map_eq_ok lowered
    obtain ⟨_, found, -⟩ := exists_of_map_eq_ok found
    exact ih refused (describes_of_eq_ok found)
  | property kind hp _ _ ih =>
    rintro ⟨node, lowered⟩
    have lowered := lowered ""
    rw [toTypeNode_of_hasKind kind, hp] at lowered
    obtain ⟨_, found, -⟩ := exists_of_map_eq_ok lowered
    obtain ⟨_, -, -, found⟩ := exists_right_of_forall₂ (propertyNodes_eq_ok_iff.mp found)
      List.mem_append_cons_self
    exact ih refused (describes_of_eq_ok found)

/-- A document that describes no type names the first document inside it that is refused for
itself, with a path from where it stands; it describes one exactly if none of the documents that
steps lead to is refused. -/
theorem toTypeNode_first_refusal (document : SchemaDocument) (location : String) :
    (∀ fault, document.toTypeNode location = .error fault ↔
      ∃ path last refusal, document.Leads Describes path last ∧ last.Refused refusal ∧
        last.toTypeNode (location ++ schemaPathText path) = .error fault ∧
        fault = refusal.raised (location ++ schemaPathText path) ∧
        ∀ other, document.toTypeNode other =
          .error (refusal.raised (other ++ schemaPathText path))) ∧
    ((∃ node, document.toTypeNode location = .ok node) ↔
      ∀ path last, document.Leads (fun _ => True) path last →
        ∀ refusal, ¬last.Refused refusal) := by
  have first (path : List SchemaStep) (last : SchemaDocument)
      (leads : document.Leads Describes path last) :
      document.Leads (fun _ => True) path last := by
    induction leads with
    | here => exact .here
    | items kind hi _ ih => exact .items kind hi ih
    | property kind hp _ _ ih => exact .property kind hp (by simp) ih
  refine ⟨fun fault => ⟨fun h => ?_, ?_⟩, ?_, fun supported => ?_⟩
  · rcases document.settled with ⟨node, lowered⟩ | ⟨path, last, refusal, leads, refused⟩
    · cases h.symm.trans (lowered location)
    · have raised := leads.raised refused.raised
      obtain rfl := Except.error.inj (h.symm.trans (raised location))
      exact ⟨path, last, refusal, leads, refused, refused.raised _, rfl, raised⟩
  · rintro ⟨path, last, refusal, -, -, -, rfl, raised⟩
    exact raised location
  · rintro ⟨node, lowered⟩ path last leads refusal refused
    exact leads.not_describes refused (describes_of_eq_ok lowered)
  · rcases document.settled with ⟨node, lowered⟩ | ⟨path, last, refusal, leads, refused⟩
    · exact ⟨node, lowered location⟩
    · exact absurd refused (supported path last (first path last leads) refusal)

/-- The tags and the note of a catalog are refused. -/
def catalogDocument : SchemaDocument where
  typeNames := some (.one "object")
  properties := some [
    ("id", { typeNames := some (.one "integer") }),
    ("tags", {
      typeNames := some (.many ["array"])
      items := some (.single { typeNames := some (.many ["string", "null"]) }) }),
    ("note", { typeNames := some (.one "text") })]

theorem toTypeNode_first_refusal_catalog :
    catalogDocument.toTypeNode "#" = .error
      (.unsupportedShape "#/properties/tags/items" "multiple type is not supported") := by
  have listed : ∃ tags, catalogDocument.properties =
        some ([("id", { typeNames := some (.one "integer") })] ++ ("tags", tags) ::
          [("note", { typeNames := some (.one "text") })]) ∧
      tags.HasKind .array ∧
      tags.items = some (.single { typeNames := some (.many ["string", "null"]) }) :=
    ⟨_, rfl, .named rfl rfl rfl rfl rfl, rfl⟩
  obtain ⟨tags, listed, kind, items⟩ := listed
  have leads : catalogDocument.Leads Describes [.property "tags", .items]
      { typeNames := some (.many ["string", "null"]) } :=
    .property (.named rfl rfl rfl rfl rfl) listed
      (List.forall_mem_singleton.mpr ⟨_, fun _ => rfl⟩) (.items kind items .here)
  have refused : Refused { typeNames := some (.many ["string", "null"]) }
      (.unsupported "multiple type is not supported") := .typeList rfl rfl rfl rfl
  obtain ⟨first, -⟩ := toTypeNode_first_refusal catalogDocument "#"
  exact (first _).mpr ⟨_, _, _, leads, refused, refused.raised _, rfl,
    leads.raised refused.raised⟩

end SchemaDocument

end CheckedTypes
