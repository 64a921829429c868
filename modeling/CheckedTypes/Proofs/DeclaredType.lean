import CheckedTypes.Proofs.EmittedType

namespace CheckedTypes

/-- The type that a declaration spells out; a member that may be absent is marked. -/
inductive DeclaredType where
  | null (optional : Bool)
  | scalar (kind : Scalar) (optional : Bool)
  | sequence (elements : DeclaredType)
  | record (members : List (String × Bool × DeclaredType)) (optional : Bool)
  | reference (ident : String) (optional : Bool)

namespace DeclaredType

mutual
def pieces (target : Target) : DeclaredType → List Piece
  | .null optional => target.nullPieces optional
  | .scalar kind optional => target.scalarPieces kind optional
  | .sequence elements => target.sequenceStart ++ elements.pieces target ++ target.sequenceEnd
  | .record members optional =>
    target.recordStart optional ++ memberPieces target members ++ target.recordEnd
  | .reference ident optional => target.referencePieces ident optional
def memberPieces (target : Target) : List (String × Bool × DeclaredType) → List Piece
  | [] => []
  | (name, optional, type) :: rest =>
    target.fieldStart name optional ++ type.pieces target ++ target.fieldEnd name optional ++
      memberPieces target rest
end

mutual
/-- The identifiers of other types that are written. -/
def references : DeclaredType → List String
  | .null _ => []
  | .scalar _ _ => []
  | .sequence elements => elements.references
  | .record members _ => memberReferences members
  | .reference ident _ => [ident]
def memberReferences : List (String × Bool × DeclaredType) → List String
  | [] => []
  | (_, _, type) :: rest => type.references ++ memberReferences rest
end

end DeclaredType

mutual
/-- What is declared for a type: its constraints leave no trace. -/
inductive TypeNode.Declares (table : TypeTable) : Bool → TypeNode → DeclaredType → Prop
  | null {optional} : Declares table optional .null (.null optional)
  | boolean {optional} : Declares table optional .boolean (.scalar .boolean optional)
  | integer {optional constraints} :
      Declares table optional (.integer constraints) (.scalar .integer optional)
  | number {optional constraints} :
      Declares table optional (.number constraints) (.scalar .number optional)
  | string {optional constraints} :
      Declares table optional (.string constraints) (.scalar .string optional)
  | array {optional items constraints elements} : Declares table false items elements →
      Declares table optional (.array (some items) false constraints) (.sequence elements)
  | object {optional properties required members} :
      DeclaresMembers table (requiredNames (sortByName properties) required)
        (sortByName properties) members →
      Declares table optional (.object properties required) (.record members optional)
  | reference {optional pointer entry} : table.resolve pointer = .ok entry →
      Declares table optional (.reference pointer) (.reference entry.ident optional)
inductive TypeNode.DeclaresMembers (table : TypeTable) :
    List String → List (String × TypeNode) → List (String × Bool × DeclaredType) → Prop
  | nil {required} : DeclaresMembers table required [] []
  | cons {required name node rest type members} :
      Declares table (!required.contains name) node type →
      DeclaresMembers table required rest members →
      DeclaresMembers table required ((name, node) :: rest)
        ((name, !required.contains name, type) :: members)
end

namespace TypeNode

variable {table : TypeTable} {optional : Bool} {type : DeclaredType}

mutual
/-- Each identifier that is written is that of a type which a reference leads to. -/
theorem Declares.exists_reference {ident : String} : ∀ {node : TypeNode} {optional : Bool}
    {type : DeclaredType}, node.Declares table optional type → ident ∈ type.references →
      ∃ pointer entry, (reference pointer).Within node ∧ table.resolve pointer = .ok entry ∧
        entry.ident = ident
  | _, _, _, .null, hm => by cases hm
  | _, _, _, .boolean, hm => by cases hm
  | _, _, _, .integer, hm => by cases hm
  | _, _, _, .number, hm => by cases hm
  | _, _, _, .string, hm => by cases hm
  | _, _, _, .array h, hm => by
    obtain ⟨pointer, entry, hw, hr⟩ := h.exists_reference hm
    exact ⟨pointer, entry, .items hw, hr⟩
  | _, _, _, .object h, hm => by
    obtain ⟨name, node, hp, pointer, entry, hw, hr⟩ := h.exists_reference hm
    exact ⟨pointer, entry, .property (mem_sortByName.mp hp) hw, hr⟩
  | _, _, _, .reference hr, hm => by
    cases List.mem_singleton.mp hm
    exact ⟨_, _, .here, hr, rfl⟩
theorem DeclaresMembers.exists_reference {ident : String} {required : List String} :
    ∀ {properties : List (String × TypeNode)} {members : List (String × Bool × DeclaredType)},
      DeclaresMembers table required properties members →
      ident ∈ DeclaredType.memberReferences members →
      ∃ name node, (name, node) ∈ properties ∧ ∃ pointer entry, (reference pointer).Within node ∧
        table.resolve pointer = .ok entry ∧ entry.ident = ident
  | _, _, .nil, hm => by cases hm
  | _, _, .cons first rest, hm => by
    rcases List.mem_append.mp hm with hm | hm
    · exact ⟨_, _, List.mem_cons_self, first.exists_reference hm⟩
    · obtain ⟨name, node, hp, found⟩ := rest.exists_reference hm
      exact ⟨name, node, List.mem_cons_of_mem _ hp, found⟩
end

end TypeNode

namespace EmissionContext

variable {context : EmissionContext} {cursor : Cursor} {optional : Bool} {next : Nat}
  {result : Bool × List Statement}

theorem exists_declaredMembers {required : List String} {properties : List (String × TypeNode)}
    (each : ∀ property ∈ properties, ∀ cursor optional next result,
      (context.emission cursor optional next property.2.sorted).outcome = .ok result →
        ∃ type, property.2.Declares context.table optional type ∧
          (context.emission cursor optional next property.2.sorted).declaration =
            type.pieces context.target)
    (h : (context.memberEmissions cursor required next
      (properties.map fun property => (property.1, property.2.sorted))).outcome = .ok result) :
    ∃ members, TypeNode.DeclaresMembers context.table required properties members ∧
      (context.memberEmissions cursor required next
        (properties.map fun property => (property.1, property.2.sorted))).declaration =
          DeclaredType.memberPieces context.target members := by
  induction properties generalizing next result with
  | nil => exact ⟨[], .nil, rfl⟩
  | cons property rest ih =>
    obtain ⟨name, node⟩ := property
    obtain ⟨first, each⟩ := List.forall_mem_cons.mp each
    rw [List.map_cons, memberEmissions] at h ⊢
    obtain ⟨_, _, _, _, hf, hr, -⟩ := Emission.andThen_ok h
    obtain ⟨_, _, he, -⟩ := Emission.within_ok hf
    obtain ⟨type, declares, here⟩ := first _ _ _ _ he
    obtain ⟨members, others, there⟩ := ih each hr
    refine ⟨_, .cons declares others, ?_⟩
    rw [Emission.andThen_declaration hf, Emission.within_declaration he, here, there]
    rfl

/-- The declaration of a type says what is declared for it and nothing else. -/
theorem exists_declaredType {node : TypeNode}
    (h : (context.emission cursor optional next node.sorted).outcome = .ok result) :
    ∃ type, node.Declares context.table optional type ∧
      (context.emission cursor optional next node.sorted).declaration =
        type.pieces context.target := by
  induction node generalizing cursor optional next result with
  | null => exact ⟨_, .null, rfl⟩
  | boolean => exact ⟨_, .boolean, rfl⟩
  | integer => exact ⟨_, .integer, rfl⟩
  | number => exact ⟨_, .number, rfl⟩
  | string => exact ⟨_, .string, rfl⟩
  | bareArray additionalItems =>
    cases additionalItems <;> simp [TypeNode.sorted, emission, Emission.failed] at h
  | array items additionalItems constraints ih =>
    simp only [TypeNode.sorted, emission] at h ⊢
    split at h
    next => simp [Emission.failed] at h
    next single =>
      obtain ⟨_, _, he, -⟩ := Emission.within_ok h
      obtain ⟨elements, declares, here⟩ := ih he
      rw [Bool.not_eq_true] at single
      subst single
      refine ⟨_, .array declares, ?_⟩
      rw [if_neg (by simp), Emission.within_declaration he, here]
      rfl
  | object properties required ih =>
    rw [emission_sorted_object] at h ⊢
    dsimp only at h ⊢
    split at h
    next => simp [Emission.failed] at h
    next hc =>
      obtain ⟨_, _, he, -⟩ := Emission.within_ok h
      obtain ⟨members, declares, here⟩ := exists_declaredMembers (fun property hp _ _ _ _ ho =>
        ih property.1 property.2 (mem_sortByName.mp hp) ho) he
      refine ⟨_, .object declares, ?_⟩
      rw [Emission.within_declaration he, here]
      rfl
  | enumeration => simp [TypeNode.sorted, emission, Emission.failed] at h
  | reference pointer =>
    simp only [TypeNode.sorted, emission] at h ⊢
    cases hr : context.table.resolve pointer with
    | error => simp [hr, Emission.failed] at h
    | ok entry =>
      refine ⟨_, .reference hr, ?_⟩
      dsimp only
      split <;> rfl

end EmissionContext

end CheckedTypes
