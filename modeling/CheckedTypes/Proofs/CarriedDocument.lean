import CheckedTypes.Proofs.CarriedReading

namespace CheckedTypes

/-- A part that is read from a source. -/
def ReadPart.ofSource (reading : Reading) (source : JsonSource) : ReadPart :=
  ⟨source, .ofSource reading source⟩

/-- A part that is read from a value. -/
def ReadPart.ofValue (value : Json) : ReadPart :=
  .ofSource .value (.ofValue value)

/-- Named values as they are read. -/
def ReadMember.ofValues (named : List (String × Json)) : List ReadMember :=
  named.map fun member => (.ok member.1, .ofValue member.2)

theorem ReadMember.ofValues_cons (name : String) (value : Json) (rest : List (String × Json)) :
    ofValues ((name, value) :: rest) = (.ok name, .ofValue value) :: ofValues rest :=
  rfl

namespace DocumentForms

theorem partsOfElements_eq_map (reading : Reading) (elements : List JsonSource) :
    partsOfElements reading elements = elements.map (.ofSource reading) := by
  induction elements with
  | nil => rfl
  | cons element rest ih => rw [partsOfElements, ih]; rfl

theorem partsOfMembers_eq_map (reading : Reading)
    (members : List (Except JsonFault String × JsonSource)) :
    partsOfMembers reading members =
      members.map fun member => (member.1, .ofSource reading member.2) := by
  induction members with
  | nil => rfl
  | cons member rest ih =>
    obtain ⟨name, source⟩ := member
    rw [partsOfMembers, ih]
    rfl

theorem ofSource_list {reading inner : Reading} (h : reading.enter? = some inner)
    (elements : List JsonSource) (ending : ListEnding) :
    ofSource reading (.list elements ending) =
      ofElements inner (elements.map (.ofSource inner)) ending := by
  rw [ofSource, h, ← partsOfElements_eq_map]

theorem ofSource_object {reading inner : Reading} (h : reading.enter? = some inner)
    (members : List (Except JsonFault String × JsonSource)) (ending : ObjectEnding) :
    ofSource reading (.object members ending) =
      ofMembers inner (members.map fun member => (member.1, .ofSource inner member.2)) ending := by
  rw [ofSource, h, ← partsOfMembers_eq_map]

theorem ofSource_ofValue_list (elements : List Json) :
    ofSource .value (.ofValue (.list elements)) =
      ofElements .value (elements.map .ofValue) .closed := by
  rw [JsonSource.ofValue, JsonSource.ofElements_eq_map, ofSource_list Reading.enter?_value,
    List.map_map]
  rfl

theorem ofSource_ofValue_object (members : List (String × Json)) :
    ofSource .value (.ofValue (.object members)) =
      ofMembers .value (ReadMember.ofValues members) .closed := by
  rw [JsonSource.ofValue, JsonSource.ofMembers_eq_map, ofSource_object Reading.enter?_value,
    List.map_map]
  rfl

/-- What is read of a part in one way is also read of it in the other. -/
structure Agree (forms reread : DocumentForms) : Prop where
  single : ∀ document, forms.single = .ok document → reread.single = .ok document
  named : ∀ documents, forms.named = .ok documents → reread.named = .ok documents
  tuple : ∀ documents, forms.tuple = .ok documents → reread.tuple = .ok documents

end DocumentForms

namespace SchemaDocument

variable {reading : Reading} {index : Nat} {document result : SchemaDocument}

/-- A list that is read as a document has an element for each keyword. -/
theorem exists_readKeyword_of_ofElements {keywords : List Keyword} {parts : List ReadPart}
    {ending : ListEnding}
    (h : ofElements reading index document keywords parts ending = .ok result) :
    List.Forall₂ (fun keyword part => ∃ before after,
      readKeyword reading before keyword part = .ok after) keywords parts := by
  induction keywords generalizing parts index document with
  | nil =>
    cases parts with
    | nil => exact .nil
    | cons part parts => cases h
  | cons keyword keywords ih =>
    cases parts with
    | nil => cases ending <;> cases h
    | cons part parts =>
      rw [ofElements] at h
      split at h
      next => cases h
      next after ha => exact .cons ⟨document, after, ha⟩ (ih h)

theorem source_of_typeNames {source : JsonSource} {names : Option TypeNames}
    (h : source.optional (·.readTypeNames reading) = .ok names) :
    source = .null ∨ (∃ s, source = .string s) ∨ ∃ elements ending,
      source = .list elements ending ∧ ∀ element ∈ elements, ∃ s, element = .string s := by
  by_cases absent : source = .null
  · exact .inl absent
  · rw [Carries.optional_of_ne_null absent] at h
    obtain ⟨found, hf, -⟩ := exists_of_map_eq_ok h
    have form := JsonSource.form_of_readAlternative hf
    cases source with
    | null => exact absurd rfl absent
    | string s => exact .inr (.inl ⟨s, rfl⟩)
    | list elements ending =>
      obtain ⟨strings, hs, -⟩ := exists_of_map_eq_ok form
      rw [JsonSource.readStrings, JsonSource.readList] at hs
      split at hs
      next => cases hs
      next inner _ =>
        obtain ⟨-, each⟩ := Carries.elementsOf_eq_ok_iff.mp hs
        refine .inr (.inr ⟨elements, ending, rfl, fun element hm => ?_⟩)
        obtain ⟨s, -, hr⟩ := exists_right_of_forall₂ each hm
        cases element with
        | string s => exact ⟨s, rfl⟩
        | _ => cases hr
    | _ => cases form

/-- What names types is no document itself: the third keyword is not given by a string. -/
theorem single_ne_ok_of_typeNames {source : JsonSource} {names : Option TypeNames}
    (h : source.optional (·.readTypeNames reading) = .ok names) :
    (DocumentForms.ofSource reading source).single ≠ .ok result := by
  intro hs
  rcases source_of_typeNames h with rfl | ⟨s, rfl⟩ | ⟨elements, ending, rfl, strings⟩
  · cases hs
  · cases s <;> cases hs
  · cases hi : reading.enter? with
    | none =>
      rw [DocumentForms.ofSource, hi] at hs
      cases hs
    | some inner =>
      rw [DocumentForms.ofSource_list hi] at hs
      have each := exists_readKeyword_of_ofElements hs
      rw [List.forall₂_map_right_iff] at each
      cases each with
      | cons _ each =>
        cases each with
        | cons _ each =>
          cases each with
          | @cons _ third _ _ hk _ =>
            obtain ⟨before, after, hk⟩ := hk
            obtain ⟨s, rfl⟩ := strings third (by simp)
            cases s <;> cases hk

end SchemaDocument

theorem DocumentForms.tuple_ne_ok_of_single {reading : Reading} {source : JsonSource}
    {document : SchemaDocument} {documents : List SchemaDocument}
    (h : (ofSource reading source).single = .ok document) :
    (ofSource reading source).tuple ≠ .ok documents := by
  intro ht
  cases source with
  | list elements ending =>
    cases hi : reading.enter? with
    | none =>
      rw [ofSource, hi] at ht
      cases ht
    | some inner =>
      rw [ofSource_list hi] at h ht
      cases elements with
      | nil => cases ending <;> cases h
      | cons first rest =>
        have each := SchemaDocument.exists_readKeyword_of_ofElements h
        cases each with
        | cons hk _ =>
          obtain ⟨before, after, hk⟩ := hk
          obtain ⟨names, hn, -⟩ := exists_of_map_eq_ok hk
          rw [ofElements, List.map_cons, SchemaDocument.tupleOfElements] at ht
          dsimp only at ht
          split at ht
          next => cases ht
          next found hf => exact SchemaDocument.single_ne_ok_of_typeNames hn hf
  | object members ending =>
    rw [ofSource] at ht
    split at ht
    next => cases ht
    next => cases ht
  | _ => cases ht

/-- A part of a text makes up a value, of which the same documents are read. -/
structure Carried (reading : Reading) (source : JsonSource) (value : Json) : Prop where
  read : source.value reading.budget = .ok value
  agree : (DocumentForms.ofSource reading source).Agree
    (DocumentForms.ofSource .value (.ofValue value))

namespace ReadPart

variable {reading : Reading} {source : JsonSource} {value : Json}

theorem documents_of_ne_null {part : ReadPart} (h : part.source ≠ .null) :
    part.documents = part.forms.named.map some := by
  unfold documents
  split
  next hn => exact absurd hn h
  next => rfl

theorem documents_carried (h : Carried reading source value)
    {documents : Option (List (String × SchemaDocument))}
    (hr : (ofSource reading source).documents = .ok documents) :
    (ofValue value).documents = .ok documents := by
  by_cases absent : source = .null
  · have hn := (Carries.value_eq_null_iff h.read).mpr absent
    subst absent hn
    exact hr
  · have hn : value ≠ .null := fun hn => absent ((Carries.value_eq_null_iff h.read).mp hn)
    rw [documents_of_ne_null absent] at hr
    rw [documents_of_ne_null (Carries.ofValue_ne_null hn)]
    obtain ⟨named, hd, rfl⟩ := exists_of_map_eq_ok hr
    rw [ofValue, ofSource, h.agree.named named hd]
    rfl

/-- What a list of documents or a document is read as. -/
def itemsForm (forms : DocumentForms) : DocumentResult (Items SchemaDocument) :=
  match forms.tuple with
  | .ok documents => .ok (.tuple documents)
  | .error _ => forms.single.map .single

theorem items_of_ne_null {part : ReadPart} (h : part.source ≠ .null) :
    part.items reading =
      (part.source.readAlternative reading .items (itemsForm part.forms)).map some := by
  unfold items
  split
  next hn => exact absurd hn h
  next => rfl

theorem itemsForm_carried (h : Carried reading source value) {items : Items SchemaDocument}
    (hr : itemsForm (DocumentForms.ofSource reading source) = .ok items) :
    itemsForm (DocumentForms.ofSource .value (.ofValue value)) = .ok items := by
  unfold itemsForm at hr
  split at hr
  next documents ht =>
    cases hr
    rw [itemsForm, h.agree.tuple documents ht]
  next =>
    obtain ⟨document, hs, rfl⟩ := exists_of_map_eq_ok hr
    have hs := h.agree.single document hs
    unfold itemsForm
    split
    next documents ht => exact absurd ht (DocumentForms.tuple_ne_ok_of_single hs)
    next => rw [hs]; rfl

theorem items_carried (h : Carried reading source value) {items : Option (Items SchemaDocument)}
    (hr : (ofSource reading source).items reading = .ok items) :
    (ofValue value).items .value = .ok items := by
  by_cases absent : source = .null
  · have hn := (Carries.value_eq_null_iff h.read).mpr absent
    subst absent hn
    exact hr
  · have hn : value ≠ .null := fun hn => absent ((Carries.value_eq_null_iff h.read).mp hn)
    rw [items_of_ne_null absent] at hr
    rw [items_of_ne_null (Carries.ofValue_ne_null hn)]
    obtain ⟨found, hf, rfl⟩ := exists_of_map_eq_ok hr
    have form := itemsForm_carried h (JsonSource.form_of_readAlternative hf)
    rw [ofValue, ofSource, JsonSource.readAlternative, Carries.value_again h.read, form]
    rfl

end ReadPart

namespace SchemaDocument

variable {reading : Reading} {document result : SchemaDocument}

/-- A keyword that is read from a text is read alike from the value. -/
theorem readKeyword_carried {keyword : Keyword} {source : JsonSource} {value : Json}
    (h : Carried reading source value)
    (hr : readKeyword reading document keyword (.ofSource reading source) = .ok result) :
    readKeyword .value document keyword (.ofValue value) = .ok result := by
  have documents {f : Option (List (String × SchemaDocument)) → SchemaDocument}
      (hr : (ReadPart.ofSource reading source).documents.map f = .ok result) :
      (ReadPart.ofValue value).documents.map f = .ok result := by
    obtain ⟨named, hd, rfl⟩ := exists_of_map_eq_ok hr
    rw [ReadPart.documents_carried h hd]
    rfl
  cases keyword with
  | type => exact Carries.typeNames.optional.map _ h.read hr
  | ref | pattern | format => exact Carries.string.optional.map _ h.read hr
  | enum => exact (Carries.list fun _ => Carries.any).optional.map _ h.read hr
  | properties | definitions | defs => exact documents hr
  | required => exact Carries.strings.optional.map _ h.read hr
  | items =>
    obtain ⟨items, hi, rfl⟩ := exists_of_map_eq_ok hr
    rw [readKeyword, ReadPart.items_carried h hi]
    rfl
  | additionalItems => exact Carries.any.optional.map _ h.read hr
  | minItems | maxItems | minLength | maxLength => exact Carries.natural.optional.map _ h.read hr
  | uniqueItems => exact Carries.boolean.map _ h.read hr
  | minimum | maximum | multipleOf => exact Carries.real.optional.map _ h.read hr
  | exclusiveMinimum | exclusiveMaximum => exact Carries.exclusive.optional.map _ h.read hr

theorem ofElements_carried {index : Nat} {keywords : List Keyword} {elements : List JsonSource}
    {values : List Json} {ending : ListEnding} (h : List.Forall₂ (Carried reading) elements values)
    (hr : ofElements reading index document keywords (elements.map (.ofSource reading)) ending =
      .ok result) :
    ofElements .value index document keywords (values.map .ofValue) .closed = .ok result := by
  induction h generalizing index document keywords with
  | nil =>
    cases keywords with
    | nil =>
      cases ending with
      | broken => cases hr
      | closed | cut => exact hr
    | cons => cases ending <;> cases hr
  | cons first _ ih =>
    cases keywords with
    | nil => cases hr
    | cons keyword keywords =>
      rw [List.map_cons, ofElements] at hr ⊢
      split at hr
      next => cases hr
      next after ha =>
        rw [readKeyword_carried first ha]
        exact ih hr

theorem tupleOfElements_carried {index : Nat} {elements : List JsonSource} {values : List Json}
    {ending : ListEnding} {documents : List SchemaDocument}
    (h : List.Forall₂ (Carried reading) elements values)
    (hr : tupleOfElements index (elements.map (.ofSource reading)) ending = .ok documents) :
    tupleOfElements index (values.map .ofValue) .closed = .ok documents := by
  induction h generalizing index documents with
  | nil =>
    cases ending with
    | broken => cases hr
    | closed | cut => exact hr
  | cons first _ ih =>
    rw [List.map_cons, tupleOfElements] at hr ⊢
    split at hr
    next => cases hr
    next document hd =>
      obtain ⟨others, ho, rfl⟩ := exists_of_map_eq_ok hr
      rw [ReadPart.ofValue, ReadPart.ofSource, first.agree.single document hd]
      dsimp only
      rw [ih ho]
      rfl

/-- Named parts of a text make up named values; of one name there may still be several. -/
def CarriedMembers (reading : Reading) (members : List (Except JsonFault String × JsonSource))
    (named : List (String × Json)) : Prop :=
  List.Forall₂ (fun member entry => member.1 = .ok entry.1 ∧ Carried reading member.2 entry.2)
    members named

section

variable {seen : List Keyword} {name : String} {value : Json} {rest : List (String × Json)}

theorem ofMembers_of_unknown (h : Keyword.ofName? name = none) :
    ofMembers .value seen document (ReadMember.ofValues ((name, value) :: rest)) .closed =
      ofMembers .value seen document (ReadMember.ofValues rest) .closed := by
  rw [ReadMember.ofValues_cons, ofMembers, h]
  dsimp only
  rw [ReadPart.ofValue, ReadPart.ofSource, JsonSource.skipFault?_ofValue]

theorem ofMembers_of_keyword {keyword : Keyword} (h : Keyword.ofName? name = some keyword) :
    ofMembers .value seen document (ReadMember.ofValues ((name, value) :: rest)) .closed =
      if seen.contains keyword then .error (.here (.repeatedKeyword keyword))
      else
        match readKeyword .value document keyword (.ofValue value) with
        | .error located => .error (located.under (.member name))
        | .ok document =>
          ofMembers .value (keyword :: seen) document (ReadMember.ofValues rest) .closed := by
  have opened := ofMembers.eq_def .value seen document
    ((.ok name, .ofValue value) :: ReadMember.ofValues rest) .closed
  dsimp only at opened
  rw [h] at opened
  rw [ReadMember.ofValues_cons]
  exact opened

end

theorem ofMembers_carried {seen : List Keyword}
    {members : List (Except JsonFault String × JsonSource)} {named : List (String × Json)}
    {ending : ObjectEnding} (h : CarriedMembers reading members named)
    (hr : ofMembers reading seen document
      (members.map fun member => (member.1, .ofSource reading member.2)) ending = .ok result) :
    ofMembers .value seen document (ReadMember.ofValues named) .closed = .ok result := by
  induction h generalizing seen document with
  | nil =>
    rw [List.map_nil, ofMembers] at hr
    split at hr
    next => cases hr
    next =>
      split at hr
      next => cases hr
      next => exact hr
  | @cons member entry _ _ first _ ih =>
    obtain ⟨_, source⟩ := member
    obtain ⟨name, value⟩ := entry
    obtain ⟨rfl, first⟩ := first
    rw [List.map_cons, ofMembers] at hr
    split at hr
    next hn =>
      split at hr
      next => cases hr
      next => exact (ofMembers_of_unknown hn).trans (ih hr)
    next keyword hn =>
      split at hr
      next => cases hr
      next fresh =>
        split at hr
        next => cases hr
        next after ha =>
          rw [ofMembers_of_keyword hn, if_neg fresh, readKeyword_carried first ha]
          exact ih hr

/-- A name that is a keyword. -/
def isKeyword (name : String) : Bool :=
  (Keyword.ofName? name).isSome

/-- What is no keyword is passed over. -/
theorem ofMembers_filter {seen : List Keyword} (named : List (String × Json)) :
    ofMembers .value seen document
        (ReadMember.ofValues (named.filter fun member => isKeyword member.1)) .closed =
      ofMembers .value seen document (ReadMember.ofValues named) .closed := by
  induction named generalizing seen document with
  | nil => rfl
  | cons member rest ih =>
    obtain ⟨name, value⟩ := member
    rw [List.filter_cons, isKeyword]
    cases hk : Keyword.ofName? name with
    | none =>
      rw [if_neg (by simp), ih, ofMembers_of_unknown hk]
    | some keyword =>
      rw [if_pos (by simp), ofMembers_of_keyword hk, ofMembers_of_keyword hk]
      simp only [ih]

/-- No keyword is read twice. -/
theorem nodup_of_ofMembers {seen : List Keyword} {named : List (String × Json)}
    (h : ofMembers .value seen document (ReadMember.ofValues named) .closed = .ok result) :
    ((named.filter fun member => isKeyword member.1).map Prod.fst).Nodup ∧
      ∀ member ∈ named, ∀ keyword, Keyword.ofName? member.1 = some keyword → keyword ∉ seen := by
  induction named generalizing seen document with
  | nil => exact ⟨.nil, nofun⟩
  | cons member rest ih =>
    obtain ⟨name, value⟩ := member
    cases hk : Keyword.ofName? name with
    | none =>
      rw [ofMembers_of_unknown hk] at h
      obtain ⟨nodup, fresh⟩ := ih h
      refine ⟨by simpa [List.filter_cons, isKeyword, hk] using nodup, ?_⟩
      refine List.forall_mem_cons.mpr ⟨fun keyword hs => ?_, fresh⟩
      rw [hk] at hs
      cases hs
    | some keyword =>
      rw [ofMembers_of_keyword hk] at h
      split at h
      next => cases h
      next unseen =>
        split at h
        next => cases h
        next after _ =>
          obtain ⟨nodup, fresh⟩ := ih h
          have kept : isKeyword name = true := by simp [isKeyword, hk]
          constructor
          · rw [List.filter_cons_of_pos (by exact kept), List.map_cons, List.nodup_cons]
            refine ⟨fun hm => ?_, nodup⟩
            obtain ⟨⟨_, other⟩, hf, rfl⟩ := List.mem_map.mp hm
            exact fresh _ (List.mem_filter.mp hf).1 keyword hk List.mem_cons_self
          · refine List.forall_mem_cons.mpr ⟨fun other ho => ?_, fun member hm other ho hs => ?_⟩
            · rw [hk] at ho
              cases ho
              simpa using unseen
            · exact fresh member hm other ho (List.mem_cons_of_mem _ hs)

/-- Members of one name that are put together were passed over before. -/
theorem ofMembers_insertMembers {named : List (String × Json)}
    (h : ofMembers .value [] document (ReadMember.ofValues named) .closed = .ok result) :
    ofMembers .value [] document (ReadMember.ofValues (insertMembers [] named)) .closed =
      .ok result := by
  have nodup := (nodup_of_ofMembers h).1
  rw [← ofMembers_filter, filter_insertMembers, List.filter_nil,
    insertMembers_of_nodup (by rwa [List.nil_append]), List.nil_append, ofMembers_filter, h]

/-- Named documents are read one by one; of one name only one is left. -/
theorem namedOfMembers_eq_ok_iff {before : List (String × SchemaDocument)}
    {members : List ReadMember} {ending : ObjectEnding}
    {documents : List (String × SchemaDocument)} :
    namedOfMembers before members ending = .ok documents ↔ ending.fault? = none ∧ ∃ named,
      List.Forall₂ (fun member entry =>
        member.1 = .ok entry.1 ∧ member.2.forms.single = .ok entry.2) members named ∧
      documents = insertMembers before named := by
  induction members generalizing before with
  | nil =>
    rw [namedOfMembers]
    cases hf : ending.fault? <;> simp [insertMembers, eq_comm]
  | cons member rest ih =>
    obtain ⟨name, part⟩ := member
    cases name with
    | error fault =>
      simp only [namedOfMembers, reduceCtorEq, false_iff, not_and, not_exists]
      rintro - named ⟨⟩
      next same _ => cases same.1
    | ok name =>
      rw [namedOfMembers]
      constructor
      · intro h
        split at h
        next => cases h
        next document hd =>
          obtain ⟨whole, named, each, rfl⟩ := ih.mp h
          exact ⟨whole, (name, document) :: named, .cons ⟨rfl, hd⟩ each, rfl⟩
      · rintro ⟨whole, named, each, rfl⟩
        cases each with
        | @cons _ entry _ others first each =>
          obtain ⟨_, document⟩ := entry
          obtain ⟨same, hd⟩ := first
          cases same
          rw [hd]
          exact ih.mpr ⟨whole, others, each, rfl⟩

theorem namedOfMembers_carried {members : List (Except JsonFault String × JsonSource)}
    {named : List (String × Json)} {ending : ObjectEnding}
    {documents : List (String × SchemaDocument)} (h : CarriedMembers reading members named)
    (hr : namedOfMembers [] (members.map fun member => (member.1, .ofSource reading member.2))
      ending = .ok documents) :
    namedOfMembers [] (ReadMember.ofValues (insertMembers [] named)) .closed = .ok documents := by
  obtain ⟨-, found, each, rfl⟩ := namedOfMembers_eq_ok_iff.mp hr
  rw [List.forall₂_map_left_iff] at each
  have values : List.Forall₂ (fun member entry => entry.1 = member.1 ∧
      (ReadPart.ofValue member.2).forms.single = .ok entry.2) named found := by
    clear hr
    induction h generalizing found with
    | nil =>
      cases each
      exact .nil
    | @cons member entry _ _ first _ ih =>
      cases each with
      | @cons _ document _ _ here each =>
        have name : Except.ok document.1 = Except.ok entry.1 := here.1.symm.trans first.1
        exact .cons ⟨Except.ok.inj name, first.2.agree.single _ here.2⟩ (ih _ each)
  have listed := @forall₂_insertMembers _ _ [] named (fun value document =>
    (ReadPart.ofValue value).forms.single = .ok document) [] found .nil values
  have nodup : ((insertMembers [] found).map Prod.fst).Nodup := nodup_insertMembers List.nodup_nil
  refine namedOfMembers_eq_ok_iff.mpr ⟨rfl, insertMembers [] found, ?_,
    (@insertMembers_of_nodup _ [] (insertMembers [] found) nodup).symm⟩
  rw [ReadMember.ofValues, List.forall₂_map_left_iff]
  exact listed.imp fun member entry h => ⟨congrArg Except.ok h.1.symm, h.2⟩

end SchemaDocument

namespace DocumentForms

/-- What documents are read of a text are also read of the value that it makes up. -/
theorem agree_ofSource {reading : Reading} {source : JsonSource} {value : Json}
    (h : source.value reading.budget = .ok value) :
    (ofSource reading source).Agree (ofSource .value (.ofValue value)) := by
  induction source generalizing reading value with
  | list elements ending ih =>
    obtain ⟨budget, values, hb, rfl, -, each⟩ := JsonSource.value_list_eq_ok_iff.mp h
    have carried : List.Forall₂ (Carried { reading with budget }) elements values :=
      ((List.forall₂_and_left _ _).mpr ⟨ih, each⟩).imp fun element value h => ⟨h.2, h.1 h.2⟩
    rw [ofSource_list (Reading.enter?_eq_some_iff.mpr ⟨budget, hb, rfl⟩), ofSource_ofValue_list]
    exact ⟨fun _ hr => SchemaDocument.ofElements_carried carried hr, fun _ hr => (by cases hr),
      fun _ hr => SchemaDocument.tupleOfElements_carried carried hr⟩
  | object members ending ih =>
    obtain ⟨budget, named, hb, rfl, -, each⟩ := JsonSource.value_object_eq_ok_iff.mp h
    have inside : ∀ member ∈ members, ∀ {reading : Reading} {value : Json},
        member.2.value reading.budget = .ok value →
          (ofSource reading member.2).Agree (ofSource .value (.ofValue value)) :=
      fun member hm => ih member.1 member.2 hm
    have carried : SchemaDocument.CarriedMembers { reading with budget } members named :=
      ((List.forall₂_and_left _ _).mpr ⟨inside, each⟩).imp fun member entry h =>
        ⟨h.2.1, h.2.2, h.1 h.2.2⟩
    rw [ofSource_object (Reading.enter?_eq_some_iff.mpr ⟨budget, hb, rfl⟩), ofSource_ofValue_object]
    exact ⟨fun _ hr => SchemaDocument.ofMembers_insertMembers
        (SchemaDocument.ofMembers_carried carried hr),
      fun _ hr => SchemaDocument.namedOfMembers_carried carried hr, fun _ hr => (by cases hr)⟩
  | _ => exact ⟨fun _ hr => (by cases hr), fun _ hr => (by cases hr), fun _ hr => (by cases hr)⟩

end DocumentForms

namespace SchemaDocument

theorem single_of_ofSource {reading : Reading} {source : JsonSource} {document : SchemaDocument}
    (h : ofSource reading source = .ok document) :
    (DocumentForms.ofSource reading source).single = .ok document := by
  unfold ofSource at h
  cases hs : (DocumentForms.ofSource reading source).single with
  | error => rw [hs] at h; cases h
  | ok found => rw [hs] at h; cases h; rfl

/-- A document that is read from a text is also read from the value of the text, and is the same. -/
theorem ofValue_of_ofText {text : String} {value : Json} {document : SchemaDocument}
    (hv : Json.ofText text = .ok value) (hd : ofText text = .ok document) :
    ofValue value = .ok document := by
  have read := single_of_ofSource hd
  have agree := @DocumentForms.agree_ofSource .text _ _ (Json.value_of_ofText hv)
  rw [ofValue, ofSource, agree.single document read]
  rfl

/-- A name that is no keyword and the name of a property are there twice. -/
def crateText : String :=
  "\x7b\"x\":1,\"properties\":\x7b\"a\":\x7b\"type\":\"string\"\x7d,\"b\":\x7b\"minLength\":3\x7d," ++
    "\"a\":\x7b\"type\":\"integer\"\x7d\x7d,\"x\":2\x7d"

def crateValue : Json :=
  .object [("x", .number (.integer 2)), ("properties", .object [
    ("a", .object [("type", .string "integer")]),
    ("b", .object [("minLength", .number (.integer 3))])])]

theorem ofValue_of_ofText_crate : ofValue crateValue = .ok {
    properties := some [
      ("a", { typeNames := some (.one "integer") }),
      ("b", { string := { minLength := some 3 } })] } := by
  have value : Json.ofText crateText = .ok crateValue := by cbv
  exact ofValue_of_ofText value (by cbv)

end SchemaDocument

end CheckedTypes
