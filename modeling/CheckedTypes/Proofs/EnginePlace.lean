import CheckedTypes.Proofs.EmittedType
import CheckedTypes.Proofs.EngineRun
import CheckedTypes.Proofs.PlaceInValue

namespace CheckedTypes

namespace Engine

variable {engine : Engine} {scope other : Scope} {cursor : Cursor}

theorem value?_down (engine : Engine) (scope : Scope) {cursor next : Cursor}
    {segment : RawSegment} (hn : next.raw = cursor.raw ++ [segment]) :
    engine.value? scope next = (engine.value? scope cursor).bind fun value =>
      (scope.step? segment).bind (engine.partAt? value) := by
  rw [value?, value?, scope.path?_down hn]
  cases scope.path? cursor with
  | none => rfl
  | some path =>
    cases hs : scope.step? segment with
    | none => cases hv : List.foldlM engine.partAt? (some scope.main) path <;> simp [hv]
    | some step => simp [List.foldlM_append]

/-- Two validators see the same at a place. -/
structure Alike (engine : Engine) (scope other : Scope) (cursor : Cursor) : Prop where
  path_eq : scope.path? cursor = other.path? cursor
  value_eq : engine.value? scope cursor = engine.value? other cursor

theorem Alike.down (h : engine.Alike scope other cursor) {next : Cursor} {segment : RawSegment}
    (hn : next.raw = cursor.raw ++ [segment]) (hs : scope.step? segment = other.step? segment) :
    engine.Alike scope other next where
  path_eq := by rw [scope.path?_down hn, other.path?_down hn, h.path_eq, hs]
  value_eq := by rw [engine.value?_down _ hn, engine.value?_down _ hn, h.value_eq, hs]

theorem Alike.field (h : engine.Alike scope other cursor) (name : String) :
    engine.Alike scope other (cursor.field name) :=
  h.down (cursor.raw_field name) rfl

theorem value?_enter (engine : Engine) (scope : Scope) (cursor : Cursor) (position : Nat) :
    engine.value? (scope.enter cursor.level position) cursor = engine.value? scope cursor := by
  rw [value?, value?, Scope.path?_enter]
  rfl

theorem Alike.enter (h : engine.Alike scope other cursor) (position : Nat) :
    engine.Alike (scope.enter cursor.level position) (other.enter cursor.level position)
      cursor where
  path_eq := by rw [Scope.path?_enter, Scope.path?_enter, h.path_eq]
  value_eq := by rw [value?_enter, value?_enter, h.value_eq]

theorem step?_enter (scope : Scope) (level position : Nat) :
    (scope.enter level position).step? (.index level) = some (.index position) := by
  simp [Scope.step?, Scope.enter]

theorem Alike.element (h : engine.Alike scope other cursor) (position : Nat) :
    engine.Alike (scope.enter cursor.level position) (other.enter cursor.level position)
      cursor.element :=
  (h.enter position).down cursor.raw_element (by rw [step?_enter, step?_enter])

/-- In a validator the expression of a place has a value and its path is known. -/
structure Sees (engine : Engine) (scope : Scope) (cursor : Cursor) (path : List ValueStep)
    (value : Option Json) : Prop where
  path_eq : scope.path? cursor = some path
  value_eq : engine.value? scope cursor = some value

variable {path : List ValueStep}

theorem sees_root (engine : Engine) (value : Json) :
    engine.Sees { main := value } FileParts.root [] (some value) :=
  ⟨rfl, rfl⟩

theorem Sees.alike {value : Option Json} (h : engine.Sees scope cursor path value)
    (h' : engine.Sees other cursor path value) : engine.Alike scope other cursor :=
  ⟨h.path_eq.trans h'.path_eq.symm, h.value_eq.trans h'.value_eq.symm⟩

theorem Sees.down {value part : Option Json} (h : engine.Sees scope cursor path value)
    {next : Cursor} {segment : RawSegment} {step : ValueStep}
    (hn : next.raw = cursor.raw ++ [segment]) (hs : scope.step? segment = some step)
    (hp : engine.partAt? value step = some part) :
    engine.Sees scope next (path ++ [step]) part where
  path_eq := by rw [scope.path?_down hn, h.path_eq, hs]; rfl
  value_eq := by rw [engine.value?_down _ hn, h.value_eq, hs]; exact hp

theorem Sees.field {members : List (String × Json)}
    (h : engine.Sees scope cursor path (some (.object members))) (name : String) :
    engine.Sees scope (cursor.field name) (path ++ [.key name])
      ((members.lookup name).or (engine.inherited name)) :=
  h.down (cursor.raw_field name) rfl rfl

theorem Sees.enter {value : Option Json} (h : engine.Sees scope cursor path value)
    (position : Nat) : engine.Sees (scope.enter cursor.level position) cursor path value where
  path_eq := (Scope.path?_enter scope cursor position).trans h.path_eq
  value_eq := (engine.value?_enter scope cursor position).trans h.value_eq

theorem Sees.element {elements : List Json}
    (h : engine.Sees scope cursor path (some (.list elements))) (position : Nat) :
    engine.Sees (scope.enter cursor.level position) cursor.element (path ++ [.index position])
      elements[position]? :=
  (h.enter position).down cursor.raw_element (step?_enter scope _ position) rfl

end Engine

namespace Scope

/-- In a validator the expression of a place has a value and its path is known. -/
structure Sees (scope : Scope) (cursor : Cursor) (path : List ValueStep) (value : Option Json) :
    Prop where
  path_eq : scope.path? cursor = some path
  value_eq : scope.value? cursor = some value

variable {scope : Scope} {cursor : Cursor} {path : List ValueStep}

theorem sees_iff {value : Option Json} :
    scope.Sees cursor path value ↔ Engine.strict.Sees scope cursor path value where
  mp h := ⟨h.path_eq, (Engine.strict_value? scope cursor).trans h.value_eq⟩
  mpr h := ⟨h.path_eq, (Engine.strict_value? scope cursor).symm.trans h.value_eq⟩

theorem sees_root (value : Json) : Sees { main := value } FileParts.root [] (some value) :=
  ⟨rfl, rfl⟩

theorem Sees.field {members : List (String × Json)}
    (h : scope.Sees cursor path (some (.object members))) (name : String) :
    scope.Sees (cursor.field name) (path ++ [.key name]) (members.lookup name) := by
  have seen := (sees_iff.mp h).field name
  rw [Engine.strict, Option.or_none] at seen
  exact sees_iff.mpr seen

theorem Sees.element {elements : List Json}
    (h : scope.Sees cursor path (some (.list elements))) (position : Nat) :
    (scope.enter cursor.level position).Sees cursor.element (path ++ [.index position])
      elements[position]? :=
  sees_iff.mpr ((sees_iff.mp h).element position)

end Scope

end CheckedTypes
