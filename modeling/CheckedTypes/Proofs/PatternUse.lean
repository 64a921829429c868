import CheckedTypes.Proofs.PatternPlace

namespace CheckedTypes

/-- A pattern where a string in a type asks for it. -/
structure PatternPlace where
  cursor : Cursor
  optional : Bool
  pattern : String

/-- A check of a pattern by its number. -/
structure PatternUse where
  index : Nat
  cursor : Cursor
  optional : Bool
deriving DecidableEq

def PatternPlace.use (index : Nat) (place : PatternPlace) : PatternUse :=
  ⟨index, place.cursor, place.optional⟩

def TypePlace.pattern? (place : TypePlace) : Option PatternPlace :=
  place.node.pattern?.map fun pattern => ⟨place.cursor, place.optional, pattern⟩

theorem TypePlace.map_pattern? (place : TypePlace) :
    place.pattern?.map PatternPlace.pattern = place.node.pattern? := by
  unfold TypePlace.pattern?
  cases place.node.pattern? <;> rfl

namespace TypeNode

/-- The patterns in a type in the order in which they are visited. -/
def patternPlaces (cursor : Cursor) (optional : Bool) (node : TypeNode) : List PatternPlace :=
  (node.sorted.places cursor optional).filterMap TypePlace.pattern?

variable {cursor : Cursor} {optional : Bool}

theorem propertyPlaces_eq (cursor : Cursor) (required : List String)
    (properties : List (String × TypeNode)) :
    propertyPlaces cursor required properties = properties.flatMap fun property =>
      property.2.places (cursor.field property.1) (!required.contains property.1) := by
  induction properties with
  | nil => rfl
  | cons property rest ih => rw [propertyPlaces, ih, List.flatMap_cons]

theorem patternPlaces_array (items : TypeNode) (additionalItems : Bool)
    (constraints : ArrayConstraints) :
    (array (some items) additionalItems constraints).patternPlaces cursor optional =
      items.patternPlaces cursor.element false := by
  rw [patternPlaces, sorted_array, Option.map_some, places]
  rfl

theorem patternPlaces_object (properties : List (String × TypeNode))
    (required : Option (List String)) :
    (object properties required).patternPlaces cursor optional =
      (sortByName properties).flatMap fun property => property.2.patternPlaces
        (cursor.field property.1)
        (!(requiredNames (sortByName properties) required).contains property.1) := by
  simp only [patternPlaces, sorted_object, sortByName_map, requiredNames_sorted, places,
    propertyPlaces_eq, Option.getD_some, List.flatMap_map, List.filterMap_flatMap,
    List.filterMap_cons]
  rfl

end TypeNode

def Row.patternUse? : Row → Option PatternUse
  | .test (.pattern index cursor optional) => some ⟨index, cursor, optional⟩
  | _ => none

namespace Statement

/-- The checks of patterns among the lines of a validator. -/
def patternUses (statements : List Statement) : List PatternUse :=
  (rowsAll 0 statements).filterMap fun row => row.2.patternUse?

theorem filterMap_rowsAll (depth : Nat) (statements : List Statement) :
    (rowsAll depth statements).filterMap (fun row => row.2.patternUse?) =
      patternUses statements := by
  have shift := rowsAll_add depth 0 statements
  rw [Nat.zero_add] at shift
  rw [shift, List.filterMap_map]
  rfl

theorem patternUses_append (statements more : List Statement) :
    patternUses (statements ++ more) = patternUses statements ++ patternUses more := by
  rw [patternUses, rowsAll_append, List.filterMap_append]
  rfl

theorem patternUses_guarded (cursor : Cursor) (body : List Statement) :
    patternUses [.guarded cursor body] = patternUses body := by
  rw [← filterMap_rowsAll 1 body]
  simp [patternUses, rowsAll, rows, Row.patternUse?]

theorem patternUses_loop (cursor : Cursor) (body : List Statement) :
    patternUses [.loop cursor body] = patternUses body := by
  rw [← filterMap_rowsAll 1 body]
  simp [patternUses, rowsAll, rows, Row.patternUse?]

theorem patternUses_splice (body : List Statement) :
    patternUses [.splice body] = patternUses body := by
  simp [patternUses, rowsAll, rows]

theorem patternUses_failUnless (predicate : Predicate) (reason : Reason) (cursor : Cursor) :
    patternUses [.failUnless predicate reason cursor] =
      (Row.test predicate).patternUse?.toList := by
  cases predicate <;> rfl

end Statement

namespace EmissionContext

open Statement

variable {context : EmissionContext} {cursor : Cursor} {optional : Bool} {next : Nat}
  {ignorable : Bool} {checks : List Statement} {patterns : List String}

theorem patternUses_unlessEmpty_failUnless (condition : Bool) {predicate : Predicate}
    (silent : (Row.test predicate).patternUse? = none) (reason : Reason) (cursor : Cursor) :
    patternUses (unlessEmpty condition (.failUnless predicate reason cursor)) = [] := by
  cases condition with
  | false => rfl
  | true => exact (patternUses_failUnless predicate reason cursor).trans (by rw [silent]; rfl)

/-- Leaving out an empty body leaves out no pattern. -/
theorem patternUses_unlessEmpty (body : List Statement) {wrap : List Statement → Statement}
    (h : patternUses [wrap body] = patternUses body) :
    patternUses (unlessEmpty (!body.isEmpty) (wrap body)) = patternUses body := by
  cases body with
  | nil => rfl
  | cons => exact h

theorem patternUses_arrayChecks (constraints : ArrayConstraints) (elements : List Statement) :
    patternUses (arrayChecks cursor optional constraints elements) = patternUses elements := by
  have body : patternUses (unlessEmpty (!constraints.isEmpty)
      (.failUnless (.array constraints cursor) .array cursor) ++
        unlessEmpty (!elements.isEmpty) (.loop cursor elements)) = patternUses elements := by
    rw [patternUses_append, patternUses_unlessEmpty_failUnless _ rfl,
      patternUses_unlessEmpty _ (patternUses_loop cursor elements), List.nil_append]
  unfold arrayChecks
  cases optional with
  | true =>
    exact (patternUses_unlessEmpty _ (patternUses_guarded cursor _)).trans body
  | false =>
    dsimp only
    rw [if_neg (by simp), ← List.singleton_append, patternUses_append, patternUses_failUnless,
      patternUses_unlessEmpty _ (patternUses_splice _), body]
    rfl

theorem patternUses_objectChecks (required : List String) (members : List Statement) :
    patternUses (objectChecks cursor optional required members) = patternUses members := by
  have probes : patternUses (required.map fun name =>
      Statement.failUnless (.member cursor name) .memberRequired (cursor.field name)) = [] := by
    induction required with
    | nil => rfl
    | cons name rest ih =>
      rw [List.map_cons, ← List.singleton_append, patternUses_append, patternUses_failUnless, ih]
      rfl
  unfold objectChecks
  cases optional with
  | true =>
    exact (patternUses_unlessEmpty _ (patternUses_guarded cursor _)).trans
      (by rw [patternUses_append, probes, List.nil_append])
  | false =>
    exact (patternUses_unlessEmpty _ (patternUses_splice _)).trans
      (by rw [patternUses_append, probes, List.nil_append])

/-- An emission has all the patterns of its type. -/
theorem Emits.patterns_eq_map
    (h : context.Emits cursor optional next node ignorable checks patterns) :
    patterns = (node.patternPlaces cursor optional).map PatternPlace.pattern := by
  have visits := context.visits_emission node.sorted cursor optional next
  rw [← h.patterns_eq, visits.patterns_eq,
    visitedPlaces_eq_self (visits.ok_iff.mp ⟨_, h.outcome⟩), TypeNode.patternPlaces,
    List.map_filterMap]
  exact List.filterMap_congr fun place _ => place.map_pattern?.symm

theorem EmitsMembers.patternUses {required : List String} {properties : List (String × TypeNode)}
    (h : context.EmitsMembers cursor required next properties ignorable checks patterns)
    (each : ∀ name node, (name, node) ∈ properties → ∀ cursor optional next a others used,
      context.Emits cursor optional next node a others used →
        Statement.patternUses others =
          numbered next PatternPlace.use (node.patternPlaces cursor optional)) :
    Statement.patternUses checks =
      numbered next PatternPlace.use (properties.flatMap fun property =>
        property.2.patternPlaces (cursor.field property.1) (!required.contains property.1)) := by
  induction h with
  | nil => rfl
  | cons first _ ih =>
    have count := congrArg List.length first.patterns_eq_map
    rw [List.length_map] at count
    rw [patternUses_append, List.flatMap_cons, numbered_append, ← count,
      each _ _ List.mem_cons_self _ _ _ _ _ _ first,
      ih fun other part hm => each other part (List.mem_cons_of_mem _ hm)]

/-- Each pattern of a type is checked once, at its place and under its number. -/
theorem Emits.patternUses
    (h : context.Emits cursor optional next node ignorable checks patterns) :
    Statement.patternUses checks =
      numbered next PatternPlace.use (node.patternPlaces cursor optional) := by
  induction node generalizing cursor optional next ignorable checks patterns with
  | null => rw [h.null.2.1]; rfl
  | boolean => rw [h.boolean.2.1]; rfl
  | integer => rw [h.integer.2.2, patternUses_unlessEmpty_failUnless _ rfl]; rfl
  | number => rw [h.number.2.2, patternUses_unlessEmpty_failUnless _ rfl]; rfl
  | string constraints =>
    rw [h.string.2.2, patternUses_append, patternUses_unlessEmpty_failUnless _ rfl]
    cases hp : constraints.pattern with
    | none => simp [TypeNode.patternPlaces, TypeNode.sorted, TypeNode.places, TypePlace.pattern?,
        TypeNode.pattern?, hp, unlessEmpty, numbered, Statement.patternUses, rowsAll]
    | some pattern =>
      simp [TypeNode.patternPlaces, TypeNode.sorted, TypeNode.places, TypePlace.pattern?,
        TypeNode.pattern?, hp, unlessEmpty, numbered, patternUses_failUnless,
        Row.patternUse?, PatternPlace.use]
  | bareArray => exact absurd h not_emits_bareArray
  | array items additionalItems constraints ih =>
    obtain ⟨-, a, elements, hi, -, rfl⟩ := h.array
    rw [patternUses_arrayChecks, TypeNode.patternPlaces_array, ih hi]
  | object properties required ih =>
    obtain ⟨-, a, members, hm, -, rfl⟩ := h.object
    rw [patternUses_objectChecks, TypeNode.patternPlaces_object]
    exact hm.patternUses fun name node hn _ _ _ _ _ _ => ih name node (mem_sortByName.mp hn)
  | enumeration => exact absurd h not_emits_enumeration
  | reference pointer =>
    obtain ⟨entry, -, -, hc⟩ := h.reference
    split at hc <;> rw [hc.2] <;> rfl

/-- A type that needs no checks has no patterns, so none is lost with its checks. -/
theorem Emits.patterns_of_ignorable
    (h : context.Emits cursor optional next node true checks patterns) : patterns = [] := by
  induction node generalizing cursor optional next checks patterns with
  | null => exact h.null.2.2
  | boolean => exact h.boolean.2.2
  | integer => exact h.integer.2.1
  | number => exact h.number.2.1
  | string constraints =>
    obtain ⟨empty, rfl, -⟩ := h.string
    have none_asked := (Bool.and_eq_true_iff.mp empty.symm).2
    rw [Option.isNone_iff_eq_none.mp none_asked]
    rfl
  | bareArray => exact absurd h not_emits_bareArray
  | array items additionalItems constraints ih =>
    obtain ⟨-, a, elements, hi, needless, -⟩ := h.array
    obtain ⟨rfl, -⟩ := Bool.and_eq_true_iff.mp needless.symm
    exact ih hi
  | object properties required ih =>
    obtain ⟨-, a, members, hm, needless, -⟩ := h.object
    obtain ⟨rfl, -⟩ := Bool.and_eq_true_iff.mp needless.symm
    refine hm.closed (P := fun a _ patterns => a = true → patterns = []) (fun _ => rfl)
      (fun first more needless => ?_) (fun name node hn _ _ _ _ he needless => ?_) rfl
    · obtain ⟨ha, hb⟩ := Bool.and_eq_true_iff.mp needless
      rw [first ha, more hb, List.append_nil]
    · exact ih name node (mem_sortByName.mp hn) (needless ▸ he)
  | enumeration => exact absurd h not_emits_enumeration
  | reference =>
    obtain ⟨entry, -, rfl, -⟩ := h.reference
    rfl

end EmissionContext

end CheckedTypes
