import CheckedTypes.Proofs.CarriedDocument
import CheckedTypes.Proofs.DocumentPart

namespace CheckedTypes

/-- In the documents that are read of a part the names are apart. -/
structure DocumentForms.NamesApart (forms : DocumentForms) : Prop where
  single : ∀ document, forms.single = .ok document → document.NamesApart
  named : ∀ documents, forms.named = .ok documents →
    SchemaDocument.SectionNamesApart (some documents)
  tuple : ∀ documents, forms.tuple = .ok documents → ∀ document ∈ documents, document.NamesApart

/-- No document is read of a part that is none. -/
theorem DocumentForms.NamesApart.of_failed {forms : DocumentForms} {fault other another}
    (hs : forms.single = .error fault) (hn : forms.named = .error other)
    (ht : forms.tuple = .error another) : forms.NamesApart where
  single := fun _ h => by
    rw [hs] at h
    cases h
  named := fun _ h => by
    rw [hn] at h
    cases h
  tuple := fun _ h => by
    rw [ht] at h
    cases h

namespace SchemaDocument

variable {reading : Reading} {document result : SchemaDocument}

theorem sectionNamesApart_none : SectionNamesApart none :=
  ⟨.nil, nofun⟩

theorem sectionNamesApart_of_documents {part : ReadPart} (apart : part.forms.NamesApart)
    {named : Option (List (String × SchemaDocument))} (h : part.documents = .ok named) :
    SectionNamesApart named := by
  by_cases absent : part.source = .null
  · unfold ReadPart.documents at h
    rw [absent] at h
    cases h
    exact sectionNamesApart_none
  · rw [ReadPart.documents_of_ne_null absent] at h
    obtain ⟨documents, hd, rfl⟩ := exists_of_map_eq_ok h
    exact apart.named documents hd

theorem itemsNamesApart_of_items {part : ReadPart} (apart : part.forms.NamesApart)
    {items : Option (Items SchemaDocument)} (h : part.items reading = .ok items) :
    ItemsNamesApart items := by
  by_cases absent : part.source = .null
  · unfold ReadPart.items at h
    rw [absent] at h
    cases h
    exact ⟨nofun, nofun⟩
  · rw [ReadPart.items_of_ne_null absent] at h
    obtain ⟨found, hf, rfl⟩ := exists_of_map_eq_ok h
    have form := JsonSource.form_of_readAlternative hf
    unfold ReadPart.itemsForm at form
    split at form
    next documents hd =>
      cases form
      refine ⟨nofun, fun others ho => ?_⟩
      cases ho
      exact apart.tuple documents hd
    next =>
      obtain ⟨inner, hs, rfl⟩ := exists_of_map_eq_ok form
      refine ⟨fun other ho => ?_, nofun⟩
      cases ho
      exact apart.single inner hs

/-- A keyword keeps the names apart. -/
theorem namesApart_of_readKeyword {keyword : Keyword} {part : ReadPart}
    (apart : part.forms.NamesApart) (h : document.NamesApart)
    (hr : readKeyword reading document keyword part = .ok result) : result.NamesApart := by
  rw [namesApart_iff] at h ⊢
  obtain ⟨properties, items, definitions, defs⟩ := h
  cases keyword with
  | properties =>
    obtain ⟨named, hn, rfl⟩ := exists_of_map_eq_ok hr
    exact ⟨sectionNamesApart_of_documents apart hn, items, definitions, defs⟩
  | items =>
    obtain ⟨found, hi, rfl⟩ := exists_of_map_eq_ok hr
    exact ⟨properties, itemsNamesApart_of_items apart hi, definitions, defs⟩
  | definitions =>
    obtain ⟨named, hn, rfl⟩ := exists_of_map_eq_ok hr
    exact ⟨properties, items, sectionNamesApart_of_documents apart hn, defs⟩
  | defs =>
    obtain ⟨named, hn, rfl⟩ := exists_of_map_eq_ok hr
    exact ⟨properties, items, definitions, sectionNamesApart_of_documents apart hn⟩
  | _ =>
    obtain ⟨_, -, rfl⟩ := exists_of_map_eq_ok hr
    exact ⟨properties, items, definitions, defs⟩

theorem namesApart_empty : NamesApart {} :=
  namesApart_iff.mpr ⟨sectionNamesApart_none, ⟨nofun, nofun⟩, sectionNamesApart_none,
    sectionNamesApart_none⟩

theorem namesApart_of_ofMembers {seen : List Keyword} {members : List ReadMember}
    {ending : ObjectEnding} (apart : ∀ member ∈ members, member.2.forms.NamesApart)
    (h : document.NamesApart)
    (hr : ofMembers reading seen document members ending = .ok result) : result.NamesApart := by
  induction members generalizing seen document with
  | nil =>
    rw [ofMembers] at hr
    split at hr
    next => cases hr
    next =>
      split at hr
      next => cases hr
      next =>
        cases hr
        exact h
  | cons member rest ih =>
    obtain ⟨name, part⟩ := member
    obtain ⟨here, behind⟩ := List.forall_mem_cons.mp apart
    cases name with
    | error => cases hr
    | ok name =>
      rw [ofMembers] at hr
      split at hr
      next =>
        split at hr
        next => cases hr
        next => exact ih behind h hr
      next =>
        split at hr
        next => cases hr
        next =>
          split at hr
          next => cases hr
          next after ha => exact ih behind (namesApart_of_readKeyword here h ha) hr

theorem namesApart_of_ofElements {index : Nat} {keywords : List Keyword} {parts : List ReadPart}
    {ending : ListEnding} (apart : ∀ part ∈ parts, part.forms.NamesApart) (h : document.NamesApart)
    (hr : ofElements reading index document keywords parts ending = .ok result) :
    result.NamesApart := by
  induction keywords generalizing index parts document with
  | nil =>
    cases parts with
    | nil =>
      cases ending with
      | broken => cases hr
      | closed | cut =>
        cases hr
        exact h
    | cons => cases hr
  | cons keyword keywords ih =>
    cases parts with
    | nil => cases ending <;> cases hr
    | cons part parts =>
      obtain ⟨here, behind⟩ := List.forall_mem_cons.mp apart
      rw [ofElements] at hr
      split at hr
      next => cases hr
      next after ha => exact ih behind (namesApart_of_readKeyword here h ha) hr

theorem namesApart_of_namedOfMembers {members : List ReadMember} {ending : ObjectEnding}
    {documents : List (String × SchemaDocument)}
    (apart : ∀ member ∈ members, member.2.forms.NamesApart)
    (hr : namedOfMembers [] members ending = .ok documents) :
    SectionNamesApart (some documents) := by
  obtain ⟨-, named, each, rfl⟩ := namedOfMembers_eq_ok_iff.mp hr
  refine ⟨nodup_insertMembers List.nodup_nil, fun name inner hm => ?_⟩
  have listed : (name, inner) ∈ named := (mem_insertMembers hm).resolve_left List.not_mem_nil
  obtain ⟨member, hm, -, hs⟩ := exists_left_of_forall₂ each listed
  exact (apart member hm).single inner hs

theorem namesApart_of_tupleOfElements {index : Nat} {parts : List ReadPart} {ending : ListEnding}
    {documents : List SchemaDocument} (apart : ∀ part ∈ parts, part.forms.NamesApart)
    (hr : tupleOfElements index parts ending = .ok documents) :
    ∀ document ∈ documents, document.NamesApart := by
  induction parts generalizing index documents with
  | nil =>
    cases ending with
    | broken => cases hr
    | closed | cut =>
      cases hr
      nofun
  | cons part parts ih =>
    obtain ⟨here, behind⟩ := List.forall_mem_cons.mp apart
    rw [tupleOfElements] at hr
    split at hr
    next => cases hr
    next first hf =>
      obtain ⟨others, ho, rfl⟩ := exists_of_map_eq_ok hr
      exact List.forall_mem_cons.mpr ⟨here.single first hf, ih behind ho⟩

end SchemaDocument

theorem DocumentForms.namesApart_ofSource (reading : Reading) (source : JsonSource) :
    (ofSource reading source).NamesApart := by
  induction source generalizing reading with
  | list elements ending ih =>
    cases hi : reading.enter? with
    | none =>
      rw [ofSource, hi]
      exact .of_failed rfl rfl rfl
    | some inner =>
      have apart : ∀ part ∈ elements.map (ReadPart.ofSource inner), part.forms.NamesApart :=
        List.forall_mem_map.mpr fun element hm => ih element hm inner
      rw [ofSource_list hi]
      refine ⟨fun _ hr => ?_, fun _ hr => ?_, fun _ hr => ?_⟩
      · exact SchemaDocument.namesApart_of_ofElements apart SchemaDocument.namesApart_empty hr
      · cases hr
      · exact SchemaDocument.namesApart_of_tupleOfElements apart hr
  | object members ending ih =>
    cases hi : reading.enter? with
    | none =>
      rw [ofSource, hi]
      exact .of_failed rfl rfl rfl
    | some inner =>
      have apart : ∀ member ∈ members.map fun member =>
          (member.1, ReadPart.ofSource inner member.2), member.2.forms.NamesApart :=
        List.forall_mem_map.mpr fun member hm => ih member.1 member.2 hm inner
      rw [ofSource_object hi]
      refine ⟨fun _ hr => ?_, fun _ hr => ?_, fun _ hr => ?_⟩
      · exact SchemaDocument.namesApart_of_ofMembers apart SchemaDocument.namesApart_empty hr
      · exact SchemaDocument.namesApart_of_namedOfMembers apart hr
      · cases hr
  | _ => exact .of_failed rfl rfl rfl

/-- Whatever a document is read from, the entries of its maps have names of their own. -/
theorem SchemaDocument.namesApart_of_ofSource {reading : Reading} {source : JsonSource}
    {document : SchemaDocument} (h : ofSource reading source = .ok document) :
    document.NamesApart :=
  (DocumentForms.namesApart_ofSource reading source).single document (single_of_ofSource h)

end CheckedTypes
