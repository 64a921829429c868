import CheckedTypes.Proofs.CanonicalTable
import CheckedTypes.Proofs.DocumentPart

namespace CheckedTypes

namespace SchemaDocument

/-- One change that only concerns the order of a document or what its objects require, at any depth:
the entries of a map change places, definitions move from one section to the other, and required
names change except those of declared properties. -/
inductive Rearranges : SchemaDocument → SchemaDocument → Prop
  | properties {document : SchemaDocument} {properties others} :
      document.properties = some properties → properties.Perm others →
      Rearranges document { document with properties := some others }
  | required {document : SchemaDocument} {names} :
      (∀ name ∈ (document.properties.getD []).map Prod.fst,
        name ∈ document.required.getD [] ↔ name ∈ names) →
      Rearranges document { document with required := some names }
  | sections {document : SchemaDocument} {definitions defs} :
      document.children.Perm (definitions.getD [] ++ defs.getD []) →
      Rearranges document { document with definitions, defs }
  | inProperty {document inner changed : SchemaDocument} {name before after} :
      document.properties = some (before ++ (name, inner) :: after) → Rearranges inner changed →
      Rearranges document { document with properties := some (before ++ (name, changed) :: after) }
  | inItems {document inner changed : SchemaDocument} :
      document.items = some (.single inner) → Rearranges inner changed →
      Rearranges document { document with items := some (.single changed) }
  | inElement {document inner changed : SchemaDocument} {before after} :
      document.items = some (.tuple (before ++ inner :: after)) → Rearranges inner changed →
      Rearranges document { document with items := some (.tuple (before ++ changed :: after)) }
  | inDefinitions {document inner changed : SchemaDocument} {name before after} :
      document.definitions = some (before ++ (name, inner) :: after) → Rearranges inner changed →
      Rearranges document { document with definitions := some (before ++ (name, changed) :: after) }
  | inDefs {document inner changed : SchemaDocument} {name before after} :
      document.defs = some (before ++ (name, inner) :: after) → Rearranges inner changed →
      Rearranges document { document with defs := some (before ++ (name, changed) :: after) }

/-- Wherever one document describes a type, the other describes the same up to order. -/
def DescribesAlike (document other : SchemaDocument) : Prop :=
  ∀ location node, document.toTypeNode location = .ok node → node.NamesApart →
    ∃ twin, other.toTypeNode location = .ok twin ∧ twin.sorted = node.sorted

theorem DescribesAlike.refl (document : SchemaDocument) : document.DescribesAlike document :=
  fun _ node h _ => ⟨node, h, rfl⟩

/-- The same names, or paths, for documents that describe the same types up to order. -/
def ListsAlike {α : Type} (named others : List (α × SchemaDocument)) : Prop :=
  List.Forall₂ (fun entry other => other.1 = entry.1 ∧ DescribesAlike entry.2 other.2) named others

theorem ListsAlike.refl {α : Type} (named : List (α × SchemaDocument)) : ListsAlike named named :=
  List.forall₂_same.mpr fun entry _ => ⟨rfl, .refl entry.2⟩

theorem ListsAlike.cons {α : Type} {named others : List (α × SchemaDocument)} {name : α}
    {inner changed : SchemaDocument} (h : inner.DescribesAlike changed)
    (h' : ListsAlike named others) :
    ListsAlike ((name, inner) :: named) ((name, changed) :: others) :=
  List.Forall₂.cons ⟨rfl, h⟩ h'

theorem ListsAlike.append {α : Type} {named others more rest : List (α × SchemaDocument)}
    (h : ListsAlike named others) (h' : ListsAlike more rest) :
    ListsAlike (named ++ more) (others ++ rest) :=
  List.rel_append h h'

/-- One document is replaced by another that describes the same type. -/
theorem ListsAlike.set {α : Type} {before after : List (α × SchemaDocument)} {name : α}
    {inner changed : SchemaDocument} (h : inner.DescribesAlike changed) :
    ListsAlike (before ++ (name, inner) :: after) (before ++ (name, changed) :: after) :=
  (ListsAlike.refl before).append (.cons h (.refl after))

/-- The keywords that decide what kind of type a document describes. -/
structure SameKeywords (document other : SchemaDocument) : Prop where
  typeNames : other.typeNames = document.typeNames
  ref : other.ref = document.ref
  enum : other.enum = document.enum
  additionalItems : other.additionalItems = document.additionalItems
  array : other.array = document.array
  numeric : other.numeric = document.numeric
  string : other.string = document.string
  properties : other.properties.isSome = document.properties.isSome

/-- Documents of the same keywords describe the same type if their parts do. -/
theorem SameKeywords.describesAlike {document other : SchemaDocument}
    (same : document.SameKeywords other)
    (items : ∀ location found, itemsNode location document.items = .ok found →
      (∀ inner ∈ found, inner.NamesApart) → ∃ twin, itemsNode location other.items = .ok twin ∧
        twin.map TypeNode.sorted = found.map TypeNode.sorted)
    (object : ∀ location nodes, propertyNodes location (document.properties.getD []) = .ok nodes →
      (TypeNode.object nodes document.required).NamesApart →
      ∃ twins, propertyNodes location (other.properties.getD []) = .ok twins ∧
        (TypeNode.object twins other.required).sorted =
          (TypeNode.object nodes document.required).sorted) :
    document.DescribesAlike other := by
  intro location node h apart
  rw [toTypeNode_eq] at h ⊢
  rw [same.ref, same.enum, same.typeNames, same.properties, same.numeric, same.string,
    same.additionalItems, same.array]
  split at h
  next => exact ⟨node, h, rfl⟩
  next => exact ⟨node, h, rfl⟩
  next =>
    split at h
    next => cases h
    next => exact ⟨node, h, rfl⟩
    next => exact ⟨node, h, rfl⟩
    next => exact ⟨node, h, rfl⟩
    next => exact ⟨node, h, rfl⟩
    next => exact ⟨node, h, rfl⟩
    next =>
      obtain ⟨found, hf, rfl⟩ := exists_of_map_eq_ok h
      obtain ⟨twin, ht, he⟩ := items location found hf fun inner hi => by
        cases Option.mem_def.mp hi
        exact apart.items
      refine ⟨_, by rw [ht]; rfl, ?_⟩
      rw [TypeNode.sorted_array, TypeNode.sorted_array, he]
    next =>
      obtain ⟨nodes, hn, rfl⟩ := exists_of_map_eq_ok h
      obtain ⟨twins, ht, he⟩ := object location nodes hn apart
      exact ⟨_, by rw [ht]; rfl, he⟩

/-- Properties in another order make the same object. -/
theorem propertyNodes_of_perm {location : String}
    {properties others : List (String × SchemaDocument)} {nodes : List (String × TypeNode)}
    (perm : properties.Perm others)
    (h : propertyNodes location properties = .ok nodes) :
    ∃ twins, propertyNodes location others = .ok twins ∧ twins.Perm nodes := by
  obtain ⟨twins, listed, moved⟩ :=
    List.perm_comp_forall₂ perm.symm (propertyNodes_eq_ok_iff.mp h)
  exact ⟨twins, propertyNodes_eq_ok_iff.mpr listed, moved⟩

theorem propertyNodes_of_alike {location : String}
    {properties others : List (String × SchemaDocument)} {nodes : List (String × TypeNode)}
    (alike : ListsAlike properties others)
    (h : propertyNodes location properties = .ok nodes)
    (apart : ∀ name node, (name, node) ∈ nodes → node.NamesApart) :
    ∃ twins, propertyNodes location others = .ok twins ∧
      (twins.map fun property => (property.1, property.2.sorted)) =
        nodes.map fun property => (property.1, property.2.sorted) := by
  have listed := propertyNodes_eq_ok_iff.mp h
  clear h
  induction alike generalizing nodes with
  | nil =>
    cases listed
    exact ⟨[], rfl, rfl⟩
  | @cons property other _ _ first _ ih =>
    cases listed with
    | @cons _ node _ nodes here listed =>
      obtain ⟨name, first⟩ := first
      obtain ⟨same, hn⟩ := here
      obtain ⟨twin, ht, he⟩ := first _ _ hn (apart node.1 node.2 List.mem_cons_self)
      have rest : ∀ name node, (name, node) ∈ nodes → node.NamesApart :=
        fun name node hm => apart name node (List.mem_cons_of_mem _ hm)
      obtain ⟨twins, hts, hes⟩ := ih rest listed
      refine ⟨(other.1, twin) :: twins, ?_, ?_⟩
      · rw [propertyNodes_eq_ok_iff] at hts ⊢
        exact .cons ⟨rfl, name ▸ ht⟩ hts
      · rw [List.map_cons, List.map_cons, hes, he, name, same]

theorem Rearranges.describesAlike {document other : SchemaDocument}
    (h : document.Rearranges other) : document.DescribesAlike other := by
  induction h with
  | @properties document properties others hp perm =>
    refine SameKeywords.describesAlike ⟨rfl, rfl, rfl, rfl, rfl, rfl, rfl, by rw [hp]; rfl⟩
      (fun _ found h _ => ⟨found, h, rfl⟩) fun location nodes hn apart => ?_
    rw [hp, Option.getD_some] at hn
    obtain ⟨twins, ht, moved⟩ := propertyNodes_of_perm perm hn
    refine ⟨twins, ht, (TypeNode.sorted_object_eq (apart _ _ .here) ?_ fun _ _ => .rfl).symm⟩
    exact moved.symm.map _
  | @required document names same =>
    refine SameKeywords.describesAlike ⟨rfl, rfl, rfl, rfl, rfl, rfl, rfl, rfl⟩
      (fun _ found h _ => ⟨found, h, rfl⟩) fun location nodes hn apart => ⟨nodes, hn, ?_⟩
    have names := map_eq_of_forall₂ (propertyNodes_eq_ok_iff.mp hn)
      (f := Prod.fst) (g := Prod.fst) fun _ _ h => h.1.symm
    exact (TypeNode.sorted_object_eq (apart _ _ .here) (.refl _) (names ▸ same)).symm
  | sections =>
    exact SameKeywords.describesAlike ⟨rfl, rfl, rfl, rfl, rfl, rfl, rfl, rfl⟩
      (fun _ found h _ => ⟨found, h, rfl⟩) fun _ nodes hn _ => ⟨nodes, hn, rfl⟩
  | @inProperty document inner changed name before after hp _ ih =>
    refine SameKeywords.describesAlike ⟨rfl, rfl, rfl, rfl, rfl, rfl, rfl, by rw [hp]; rfl⟩
      (fun _ found h _ => ⟨found, h, rfl⟩) fun location nodes hn apart => ?_
    rw [hp, Option.getD_some] at hn
    obtain ⟨twins, ht, same⟩ := propertyNodes_of_alike (.set ih) hn fun _ _ hm => apart.property hm
    exact ⟨twins, ht, (TypeNode.sorted_object_eq (apart _ _ .here) (.of_eq same.symm)
      fun _ _ => .rfl).symm⟩
  | @inItems document inner changed hi _ ih =>
    refine SameKeywords.describesAlike ⟨rfl, rfl, rfl, rfl, rfl, rfl, rfl, rfl⟩
      (fun location found h apart => ?_) fun _ nodes hn _ => ⟨nodes, hn, rfl⟩
    rw [hi, itemsNode] at h
    obtain ⟨node, hn, rfl⟩ := exists_of_map_eq_ok h
    obtain ⟨twin, ht, same⟩ := ih _ _ hn (apart node rfl)
    exact ⟨some twin, by rw [itemsNode, ht]; rfl, congrArg some same⟩
  | @inElement document inner changed before after hi _ _ =>
    refine SameKeywords.describesAlike ⟨rfl, rfl, rfl, rfl, rfl, rfl, rfl, rfl⟩
      (fun location found h apart => ?_) fun _ nodes hn _ => ⟨nodes, hn, rfl⟩
    rw [hi, itemsNode] at h
    cases h
  | inDefinitions =>
    exact SameKeywords.describesAlike ⟨rfl, rfl, rfl, rfl, rfl, rfl, rfl, rfl⟩
      (fun _ found h _ => ⟨found, h, rfl⟩) fun _ nodes hn _ => ⟨nodes, hn, rfl⟩
  | inDefs =>
    exact SameKeywords.describesAlike ⟨rfl, rfl, rfl, rfl, rfl, rfl, rfl, rfl⟩
      (fun _ found h _ => ⟨found, h, rfl⟩) fun _ nodes hn _ => ⟨nodes, hn, rfl⟩

/-- The definitions inside the documents describe the same types, in whatever order. -/
def HoldsAlike (document other : SchemaDocument) : Prop :=
  ∀ path, ∃ between, (document.definitionsBelow path).Perm between ∧
    ListsAlike between (other.definitionsBelow path)

theorem HoldsAlike.of_children {document other : SchemaDocument}
    (h : document.children.Perm other.children) : document.HoldsAlike other := by
  intro path
  rw [definitionsBelow_eq, definitionsBelow_eq]
  exact ⟨_, h.flatMap_right _, .refl _⟩

/-- One definition is replaced by another that describes the same type and holds the same. -/
theorem HoldsAlike.of_child {document other inner changed : SchemaDocument} {name : String}
    {before after : List (String × SchemaDocument)}
    (hd : document.children = before ++ (name, inner) :: after)
    (ho : other.children = before ++ (name, changed) :: after)
    (describes : inner.DescribesAlike changed) (holds : inner.HoldsAlike changed) :
    document.HoldsAlike other := by
  intro path
  obtain ⟨between, perm, alike⟩ := holds (path ++ [name])
  rw [definitionsBelow_eq, definitionsBelow_eq, hd, ho, List.flatMap_append, List.flatMap_append,
    List.flatMap_cons, List.flatMap_cons]
  exact ⟨_, ((perm.cons _).append_right _).append_left _,
    (ListsAlike.refl _).append ((ListsAlike.cons describes alike).append (.refl _))⟩

theorem Rearranges.holdsAlike {document other : SchemaDocument} (h : document.Rearranges other) :
    document.HoldsAlike other := by
  induction h with
  | properties | required | inProperty | inItems | inElement => exact .of_children (.refl _)
  | sections perm => exact .of_children perm
  | @inDefinitions document inner changed name before after hd h ih =>
    have children (inner : SchemaDocument) :
        before ++ (name, inner) :: after ++ document.defs.getD [] =
          before ++ (name, inner) :: (after ++ document.defs.getD []) := by
      rw [List.append_assoc, List.cons_append]
    exact .of_child ((congrArg (·.getD [] ++ _) hd).trans (children inner)) (children changed)
      h.describesAlike ih
  | @inDefs document inner changed name before after hd h ih =>
    have children (inner : SchemaDocument) :
        document.definitions.getD [] ++ (before ++ (name, inner) :: after) =
          document.definitions.getD [] ++ before ++ (name, inner) :: after :=
      (List.append_assoc _ _ _).symm
    exact .of_child ((congrArg (_ ++ ·.getD []) hd).trans (children inner)) (children changed)
      h.describesAlike ih

theorem Rearranges.isType {document other : SchemaDocument} (h : document.Rearranges other) :
    other.isType = document.isType := by
  cases h with
  | properties hp | inProperty hp => simp [SchemaDocument.isType, hp]
  | _ => rfl

/-- Where no path is repeated, the sections of every document are apart. -/
theorem allApart_of_nodup {document : SchemaDocument} (path : List String)
    (h : ((document.definitionsBelow path).map Prod.fst).Nodup) : document.AllApart := by
  induction document using definition_induct generalizing path with
  | step document ih =>
    rw [definitionsBelow_eq, List.map_flatMap, List.nodup_flatMap] at h
    obtain ⟨each, apart⟩ := h
    refine .of_children ?_ fun name definition hc => ?_
    · rw [children, List.pairwise_append] at apart
      intro name first second
      obtain ⟨⟨_, definition⟩, hd, rfl⟩ := List.mem_map.mp first
      obtain ⟨⟨_, other⟩, ho, same⟩ := List.mem_map.mp second
      cases same
      exact apart.2.2 _ hd _ ho List.mem_cons_self List.mem_cons_self
    · have below := each _ hc
      rw [List.map_cons, List.nodup_cons] at below
      exact ih name definition hc _ below.2

theorem definitionEntries_of_alike {below others : List (List String × SchemaDocument)}
    {entries : List TypeEntry} (alike : ListsAlike below others)
    (listed : ListsEntries below entries) (apart : ∀ entry ∈ entries, entry.node.NamesApart) :
    ∃ twins, ListsEntries others twins ∧
      twins.map TypeEntry.canonical = entries.map TypeEntry.canonical := by
  induction alike generalizing entries with
  | nil =>
    cases listed
    exact ⟨[], .nil, rfl⟩
  | @cons below other _ _ first _ ih =>
    cases listed with
    | @cons _ entry _ entries here listed =>
      obtain ⟨first, describes⟩ := first
      obtain ⟨node, hn, rfl⟩ := definitionEntry_eq_ok_iff.mp here
      obtain ⟨here, apart⟩ := List.forall_mem_cons.mp apart
      obtain ⟨twin, ht, he⟩ := describes _ _ hn here
      obtain ⟨twins, hts, hes⟩ := ih listed apart
      refine ⟨⟨_, _, twin, _⟩ :: twins, .cons (definitionEntry_eq_ok_iff.mpr
        ⟨twin, first ▸ ht, rfl⟩) hts, ?_⟩
      rw [List.map_cons, List.map_cons, hes, first]
      exact congrArg (· :: _) (TypeEntry.canonical_eq_iff.mpr ⟨rfl, rfl, he, rfl⟩)

theorem Rearranges.rootEntry? {document other : SchemaDocument} (h : document.Rearranges other)
    {root : Option String} {first : Option TypeEntry} (hr : document.rootEntry? root = .ok first)
    (apart : ∀ entry ∈ first.toList, entry.node.NamesApart) :
    ∃ twin, other.rootEntry? root = .ok twin ∧
      twin.map TypeEntry.canonical = first.map TypeEntry.canonical := by
  rcases rootEntry?_eq_ok_iff.mp hr with ⟨type, rfl⟩ | ⟨entry, rfl, type, name, node, hn, hl, rfl⟩
  · exact ⟨none, rootEntry?_eq_ok_iff.mpr (.inl ⟨h.isType.trans type, rfl⟩), rfl⟩
  · obtain ⟨twin, hm, same⟩ := h.describesAlike _ _ hl (apart _ List.mem_cons_self)
    refine ⟨some _, rootEntry?_eq_ok_iff.mpr (.inr ⟨_, rfl, h.isType.trans type, name, twin, hn,
      hm, rfl⟩), ?_⟩
    exact congrArg some (TypeEntry.canonical_eq_iff.mpr ⟨rfl, rfl, same, rfl⟩)

theorem Rearranges.definitionEntries {document other : SchemaDocument}
    (h : document.Rearranges other) {entries : List TypeEntry}
    (listed : ListsEntries (document.definitionsBelow []) entries)
    (apart : ∀ entry ∈ entries, entry.node.NamesApart) :
    ∃ twins, ListsEntries (other.definitionsBelow []) twins ∧
      (twins.map TypeEntry.canonical).Perm (entries.map TypeEntry.canonical) := by
  obtain ⟨between, perm, alike⟩ := h.holdsAlike []
  obtain ⟨moved, listed, order⟩ := List.perm_comp_forall₂ perm.symm listed
  obtain ⟨twins, found, same⟩ := definitionEntries_of_alike alike listed fun entry hm =>
    apart entry (order.subset hm)
  exact ⟨twins, found, same ▸ order.map _⟩

/-- The table of a rearranged document holds the same types. -/
theorem Rearranges.toTypeTable {document other : SchemaDocument} (h : document.Rearranges other)
    {root : Option String} {table : TypeTable} (ht : document.toTypeTable root = .ok table)
    (apart : ∀ entry ∈ table.entries, entry.node.NamesApart) :
    ∃ twin, other.toTypeTable root = .ok twin ∧ table.Alike twin := by
  obtain ⟨first, entries, hr, he, hentries, hroot⟩ := toTypeTable_eq_ok_iff.mp ht
  rw [hentries, List.forall_mem_append] at apart
  obtain ⟨rootApart, apart⟩ := apart
  obtain ⟨twin, htwin, canonical⟩ := h.rootEntry? hr rootApart
  obtain ⟨twins, found, order⟩ := h.definitionEntries (definitionEntries_eq_ok_iff.mp he).2 apart
  have perm : ((twin.toList ++ twins).map TypeEntry.canonical).Perm
      (table.entries.map TypeEntry.canonical) := by
    rw [hentries, List.map_append, List.map_append, ← Option.toList_map, canonical,
      Option.toList_map]
    exact order.append_left _
  have names := perm.map TypeEntry.name
  have idents := perm.map TypeEntry.ident
  rw [List.map_map, List.map_map] at names idents
  have nodupName : ((twin.toList ++ twins).map TypeEntry.name).Nodup :=
    names.nodup_iff.mpr table.nodup_name
  have nodupIdent : ((twin.toList ++ twins).map TypeEntry.ident).Nodup :=
    idents.nodup_iff.mpr table.nodup_ident
  have sections : other.AllApart := by
    refine allApart_of_nodup [] (.of_map definitionName ?_)
    rw [List.map_append, List.nodup_append, (names_of_listed found).1] at nodupName
    rw [List.map_map]
    exact nodupName.2.1
  refine ⟨⟨twin.toList ++ twins, twin.map TypeEntry.name, nodupName, nodupIdent⟩,
    toTypeTable_eq_ok_iff.mpr ⟨twin, twins, htwin,
      definitionEntries_eq_ok_iff.mpr ⟨sections, found⟩, rfl, rfl⟩, ?_, perm⟩
  have same := congrArg (Option.map TypeEntry.name) canonical
  rw [Option.map_map, Option.map_map] at same
  exact same.trans hroot.symm

theorem Rearranges.generate {document other : SchemaDocument} (h : document.Rearranges other)
    {target : Target} {options : GenerateOptions} {text : String}
    (hg : document.generate target options = .ok text) :
    other.generate target options = .ok text := by
  obtain ⟨table, ht, hr⟩ := generate_eq_ok_iff.mp hg
  have wf := TypeTable.exists_render_iff.mp ⟨text, hr⟩
  obtain ⟨twin, htwin, alike⟩ := h.toTypeTable ht fun entry hm => wf.namesApart hm
  refine generate_eq_ok_iff.mpr ⟨twin, htwin, ?_⟩
  rw [alike.render wf, hr]

/-- What is generated does not depend on the order in which a document lists its properties, its
definitions and what is required, nor on the section a definition stands in. -/
theorem generate_canonical {document other : SchemaDocument}
    (h : Relation.ReflTransGen Rearranges document other) (target : Target)
    (options : GenerateOptions) (text : String)
    (hg : document.generate target options = .ok text) :
    other.generate target options = .ok text := by
  induction h with
  | refl => exact hg
  | tail _ step ih => exact step.generate ih

/-- A part with two patterns beside a label. -/
def trayDocument : SchemaDocument where
  definitions := some [
    ("part", {
      properties := some [
        ("code", { typeNames := some (.one "string"), string := { pattern := some "a" } }),
        ("area", { typeNames := some (.one "string"), string := { pattern := some "b" } })]
      required := some ["code"] }),
    ("label", { typeNames := some (.one "string"), string := { pattern := some "c" } })]

def rearrangedTrayDocument : SchemaDocument where
  definitions := some [
    ("label", { typeNames := some (.one "string"), string := { pattern := some "c" } })]
  defs := some [
    ("part", {
      properties := some [
        ("area", { typeNames := some (.one "string"), string := { pattern := some "b" } }),
        ("code", { typeNames := some (.one "string"), string := { pattern := some "a" } })]
      required := some ["code", "weight", "code"] })]

theorem rearranges_tray :
    Relation.ReflTransGen Rearranges trayDocument rearrangedTrayDocument := by
  have swapped := @Rearranges.inDefinitions trayDocument _ _ "part" [] _ rfl
    (.properties rfl (.swap _ _ []))
  refine .head swapped (.head (@Rearranges.inDefinitions _ _ _ "part" [] _ rfl
    (@Rearranges.required _ ["code", "weight", "code"] ?_)) (.single ?_))
  · decide
  · exact @Rearranges.sections _ rearrangedTrayDocument.definitions rearrangedTrayDocument.defs
      (.swap _ _ [])

def trayTable : TypeTable where
  entries := [
    ⟨"part", ["part"], .object [("code", .string { pattern := some "a" }),
      ("area", .string { pattern := some "b" })] (some ["code"]), "Part"⟩,
    ⟨"label", ["label"], .string { pattern := some "c" }, "Label"⟩]
  nodup_name := by decide
  nodup_ident := by decide

theorem trayTable_wellFormed : trayTable.WellFormed := by
  constructor
  · intro entry hm values hn
    fin_cases hm
    · cases hn
    · cases hn
  · intro entry hm kind
    fin_cases hm
    · refine TypeNode.wellFormed_object.mpr ⟨by decide, fun name node hp part hw => ?_⟩
      fin_cases hp
      · cases hw; trivial
      · cases hw; trivial
    · rintro part ⟨⟩
      trivial

theorem generate_canonical_tray :
    Relation.ReflTransGen Rearranges trayDocument rearrangedTrayDocument ∧
      ∃ text, trayDocument.generate .go {} = .ok text ∧
        rearrangedTrayDocument.generate .go {} = .ok text := by
  have flat : trayDocument.toTypeTable none = .ok trayTable := by cbv
  obtain ⟨text, hr⟩ := TypeTable.exists_render_iff.mpr trayTable_wellFormed
  have made : trayDocument.generate .go {} = .ok text :=
    generate_eq_ok_iff.mpr ⟨trayTable, flat, hr⟩
  exact ⟨rearranges_tray, text, made, generate_canonical rearranges_tray .go {} text made⟩

end SchemaDocument

end CheckedTypes
