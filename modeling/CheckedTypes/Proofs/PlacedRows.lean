import CheckedTypes.Proofs.BlockRows
import CheckedTypes.Proofs.CheckedAlike
import CheckedTypes.Proofs.ContainedPlace
import CheckedTypes.Proofs.MentionedText
import CheckedTypes.Proofs.SharedChecks

namespace CheckedTypes

/-- Whatever looks at a value that may be absent, or into one, stands in a block that is only
entered if the value is there, or is the test that opens this block. -/
def Row.Guarded (start : TypePlace) (enclosing : List Row) (row : Row) : Prop :=
  ∀ place, start.Contains place → place.NeedsGuard → ∀ cursor ∈ row.cursors,
    place.cursor.LeadsTo cursor → row = .guard place.cursor ∨ .guard place.cursor ∈ enclosing

/-- The counters of loops are used where they have a meaning, and only there. -/
structure Row.Scoped (target : Target) (enclosing : List Row) (row : Row) (body : List Row) :
    Prop where
  /-- What counts the elements of an array is the loop over that array. -/
  bound : ∀ cursor ∈ row.cursors, ∀ level, .index level ∈ cursor.raw →
    ∃ array : Cursor, array.level = level ∧ array.element.LeadsTo cursor ∧
      .loop array ∈ enclosing
  fresh : ∀ array, row = .loop array → ∀ other : Cursor, .loop other ∈ enclosing →
    other.loopVar ≠ array.loopVar
  used : ∀ array, row = .loop array → ∃ inner ∈ body, ∃ cursor ∈ inner.cursors,
    array.element.LeadsTo cursor ∧ Mentions (inner.text target) array.loopVar

def Row.Placed (target : Target) (start : TypePlace) (enclosing : List Row) (row : Row)
    (body : List Row) : Prop :=
  row.Guarded start enclosing ∧ row.Scoped target enclosing body

namespace TypePlace

/-- What the blocks around the rows of a part of a type are: the guards of the values around it and
the loops over the arrays that it is in. -/
structure Stands (start : TypePlace) (enclosing : List Row) (place : TypePlace) : Prop where
  contained : start.Contains place
  guarded : ∀ other, start.Contains other → other.NeedsGuard →
    other.cursor.LeadsTo place.cursor → other ≠ place → .guard other.cursor ∈ enclosing
  bound : ∀ array : Cursor, array.element.LeadsTo place.cursor → .loop array ∈ enclosing
  fresh : ∀ array : Cursor, .loop array ∈ enclosing → array.level < place.cursor.level

/-- The block that is only entered if the value is there has been entered, if there is one. -/
def Entered (enclosing : List Row) (place : TypePlace) : Prop :=
  place.NeedsGuard → .guard place.cursor ∈ enclosing

variable {target : Target} {start place child : TypePlace} {enclosing body : List Row}
  {header row : Row}

theorem Stands.cons (h : start.Stands enclosing place) (noLoop : ∀ array, header ≠ .loop array) :
    start.Stands (header :: enclosing) place where
  contained := h.contained
  guarded := fun other hc hg hl hne => List.mem_cons_of_mem _ (h.guarded other hc hg hl hne)
  bound := fun array hl => List.mem_cons_of_mem _ (h.bound array hl)
  fresh := fun array hm =>
    h.fresh array ((List.mem_cons.mp hm).resolve_left (noLoop array).symm)

theorem Entered.cons (h : place.Entered enclosing) : place.Entered (header :: enclosing) :=
  fun needed => List.mem_cons_of_mem _ (h needed)

theorem Stands.placed (h : start.Stands enclosing place)
    (guards : row = .guard place.cursor ∨ place.Entered enclosing)
    (looks : row.cursors = [place.cursor])
    (used : ∀ array, row = .loop array → array = place.cursor ∧ ∃ inner ∈ body,
      ∃ cursor ∈ inner.cursors, array.element.LeadsTo cursor ∧
        Mentions (inner.text target) array.loopVar) :
    row.Placed target start enclosing body := by
  refine ⟨fun other contained needed cursor hm leads => ?_, fun cursor hm level hi => ?_,
    fun array he other ho same => ?_, fun array he => (used array he).2⟩
  · rw [looks, List.mem_singleton] at hm
    subst hm
    by_cases same : other = place
    · subst same
      exact guards.imp_right fun entered => entered needed
    · exact .inr (h.guarded other contained needed leads same)
  · rw [looks, List.mem_singleton] at hm
    subst hm
    obtain ⟨array, hl, leads⟩ := Cursor.exists_array_of_mem_raw hi
    exact ⟨array, hl, leads, h.bound array leads⟩
  · have lower := h.fresh other ho
    rw [Cursor.loopVar_injective same, (used array he).1] at lower
    exact Nat.lt_irrefl _ lower

/-- The rows that open no loop. -/
theorem Stands.placed_of_not_loop (h : start.Stands enclosing place)
    (entered : place.Entered enclosing) (looks : row.cursors = [place.cursor])
    (noLoop : ∀ array, row ≠ .loop array) : row.Placed target start enclosing body :=
  h.placed (.inr entered) looks fun array he => absurd he (noLoop array)

theorem Stands.guard (h : start.Stands enclosing place) :
    (Row.guard place.cursor).Placed target start enclosing body :=
  h.placed (.inl rfl) rfl fun _ he => nomatch he

/-- Around a part stand the guards of what contains it, which the type itself may be one of. -/
theorem Stands.guarded_part (h : start.Stands enclosing place) (entered : place.Entered enclosing)
    {step : DescentStep} (hc : place.part? step = some child) {other : TypePlace}
    (contained : start.Contains other) (needed : other.NeedsGuard)
    (leads : other.cursor.LeadsTo child.cursor) (hne : other ≠ child) :
    .guard other.cursor ∈ enclosing := by
  rw [part?_cursor hc, Cursor.leadsTo_append_iff, ← part?_cursor hc] at leads
  have leads := leads.resolve_left fun same =>
    hne (contained.eq_of_cursor_eq (h.contained.part hc) same)
  by_cases same : other = place
  · subst same
    exact entered needed
  · exact h.guarded other contained needed leads same

theorem Stands.member (h : start.Stands enclosing place) (entered : place.Entered enclosing)
    {name : String} (hc : place.part? (.field name) = some child) :
    start.Stands enclosing child := by
  have cursor : child.cursor = place.cursor.field name := part?_cursor hc
  refine ⟨h.contained.part hc, fun other => h.guarded_part entered hc, fun array leads => ?_,
    fun array hm => ?_⟩
  · rw [cursor] at leads
    have outside := (Cursor.leadsTo_append_iff.mp leads).resolve_left Cursor.element_ne_field
    exact h.bound array outside
  · rw [cursor, Cursor.level_field]
    exact h.fresh array hm

theorem Stands.items (h : start.Stands enclosing place) (entered : place.Entered enclosing)
    (hc : place.part? .element = some child) :
    start.Stands (.loop place.cursor :: enclosing) child := by
  have cursor : child.cursor = place.cursor.element := part?_cursor hc
  refine ⟨h.contained.part hc, fun other contained needed leads hne => ?_, fun array leads => ?_,
    fun array hm => ?_⟩
  · exact List.mem_cons_of_mem _ (h.guarded_part entered hc contained needed leads hne)
  · rw [cursor] at leads
    rcases Cursor.leadsTo_append_iff.mp leads with same | leads
    · rw [Cursor.element_injective same]
      exact List.mem_cons_self
    · exact List.mem_cons_of_mem _ (h.bound array leads)
  · -- The counter of the new loop is above those of the loops around it.
    rw [cursor, Cursor.level_element]
    rcases List.mem_cons.mp hm with same | hm
    · cases same
      exact Nat.lt_succ_self _
    · exact Nat.lt_succ_of_lt (h.fresh array hm)

end TypePlace

namespace Statement

open TypePlace

variable {target : Target} {start place child : TypePlace} {enclosing : List Row}
  {elements members : List Statement}

theorem laid_own (h : start.Stands enclosing place) (entered : place.Entered enclosing)
    (predicate : Predicate) (looks : predicate.cursor = place.cursor) (reason : Reason) :
    Laid (Row.Placed target start) enclosing [.failUnless predicate reason place.cursor] := by
  have noLoop : ∀ array, Row.test predicate ≠ .loop array := fun _ => nofun
  exact laid_failUnless (h.placed_of_not_loop entered (congrArg ([·]) looks) noLoop)
    ((h.cons noLoop).placed_of_not_loop entered.cons rfl fun _ => nofun)

/-- A member that has to be there is looked for before it is looked at. -/
theorem laid_probe (h : start.Stands enclosing place) (entered : place.Entered enclosing)
    {name : String} (hc : place.part? (.field name) = some child)
    (needed : child.optional = false) :
    Laid (Row.Placed target start) enclosing
      [.failUnless (.member place.cursor name) .memberRequired (place.cursor.field name)] := by
  have noLoop : ∀ array, Row.test (.member place.cursor name) ≠ .loop array := fun _ => nofun
  have open' : child.Entered (.test (.member place.cursor name) :: enclosing) := fun guards =>
    absurd guards.1 (by simp [needed])
  have cursor : child.cursor = place.cursor.field name := part?_cursor hc
  rw [← cursor]
  exact laid_failUnless (h.placed_of_not_loop entered rfl noLoop)
    (((h.member entered hc).cons noLoop).placed_of_not_loop open' rfl fun _ => nofun)

theorem laid_loop (h : start.Stands enclosing place) (entered : place.Entered enclosing)
    (hne : elements ≠ [])
    (inside : Laid (Row.Placed target start) (.loop place.cursor :: enclosing) elements)
    (below : ∀ cursor ∈ cursorsAll elements, place.cursor.element.LeadsTo cursor) :
    Laid (Row.Placed target start) enclosing [.loop place.cursor elements] := by
  refine laid_block (encloses_loop place.cursor) hne inside (h.placed (.inr entered) rfl ?_)
  intro array same
  cases same
  obtain ⟨row, hr, cursor, hc⟩ := inside.blocks.exists_cursor (inside.shown hne)
  have leads := below cursor (mem_cursorsAll_of_mem_rowsAll hr hc)
  exact ⟨rfl, row.2, List.mem_map_of_mem hr, cursor, hc, leads,
    Row.mentions_text hc (Cursor.mem_raw_of_leadsTo leads) target⟩

/-- Checks that are only made if the value is there. -/
theorem laid_guarded (h : start.Stands enclosing place) (hne : elements ≠ [])
    (inside : ∀ enclosing, start.Stands enclosing place → place.Entered enclosing →
      Laid (Row.Placed target start) enclosing elements) :
    Laid (Row.Placed target start) enclosing [.guarded place.cursor elements] :=
  laid_block (encloses_guarded place.cursor) hne
    (inside _ (h.cons fun _ => nofun) fun _ => List.mem_cons_self) h.guard

theorem laid_arrayChecks (h : start.Stands enclosing place) (constraints : ArrayConstraints)
    (hc : place.part? .element = some child)
    (inside : ∀ enclosing, start.Stands enclosing child →
      Laid (Row.Placed target start) enclosing elements)
    (below : ∀ cursor ∈ cursorsAll elements, place.cursor.element.LeadsTo cursor) :
    Laid (Row.Placed target start) enclosing
      (EmissionContext.arrayChecks place.cursor place.optional constraints elements) := by
  have body (enclosing : List Row) (h : start.Stands enclosing place)
      (entered : place.Entered enclosing) : Laid (Row.Placed target start) enclosing
        (EmissionContext.unlessEmpty (!constraints.isEmpty)
            (.failUnless (.array constraints place.cursor) .array place.cursor) ++
          EmissionContext.unlessEmpty (!elements.isEmpty) (.loop place.cursor elements)) :=
    (laid_unlessEmpty fun _ => laid_own h entered (.array constraints place.cursor) rfl _).append
      (laid_unlessEmpty fun hne =>
        laid_loop h entered (by simpa using hne) (inside _ (h.items entered hc)) below)
  unfold EmissionContext.arrayChecks
  dsimp only
  split
  next =>
    exact laid_unlessEmpty fun hne => laid_guarded h (by simpa using hne) body
  next required =>
    have entered : place.Entered enclosing := fun guards => absurd guards.1 required
    exact (laid_own h entered (.present place.cursor) rfl .arrayPresent).append
      (laid_unlessEmpty fun hne => laid_splice (by simpa using hne) (body enclosing h entered))

theorem laid_objectChecks (h : start.Stands enclosing place) {required : List String}
    (probes : ∀ name ∈ required, ∃ child, place.part? (.field name) = some child ∧
      child.optional = false)
    (inside : ∀ enclosing, start.Stands enclosing place → place.Entered enclosing →
      Laid (Row.Placed target start) enclosing members) :
    Laid (Row.Placed target start) enclosing
      (EmissionContext.objectChecks place.cursor place.optional required members) := by
  have body (enclosing : List Row) (h : start.Stands enclosing place)
      (entered : place.Entered enclosing) : Laid (Row.Placed target start) enclosing
        ((required.map fun name => Statement.failUnless (.member place.cursor name) .memberRequired
          (place.cursor.field name)) ++ members) := by
    refine Laid.append ?_ (inside enclosing h entered)
    clear inside
    induction required with
    | nil => exact .nil
    | cons name rest ih =>
      obtain ⟨⟨child, hc, needed⟩, others⟩ := List.forall_mem_cons.mp probes
      exact (laid_probe h entered hc needed).append (ih others)
  unfold EmissionContext.objectChecks
  dsimp only
  refine laid_unlessEmpty fun hne => ?_
  split
  next => exact laid_guarded h (by simpa using hne) body
  next required =>
    have entered : place.Entered enclosing := fun guards => absurd guards.1 required
    exact laid_splice (by simpa using hne) (body enclosing h entered)

end Statement

namespace EmissionContext

open Statement TypePlace

variable {context : EmissionContext} {target : Target} {start : TypePlace} {enclosing : List Row}
  {cursor : Cursor} {optional ignorable : Bool} {next : Nat} {node : TypeNode}
  {checks : List Statement} {patterns : List String}

/-- The checks of a type are written in blocks, of which each guards what is in it or counts it. -/
theorem Emits.laid (h : context.Emits cursor optional next node ignorable checks patterns)
    (stands : start.Stands enclosing ⟨cursor, optional, node⟩) :
    Laid (Row.Placed target start) enclosing checks := by
  induction node generalizing cursor optional next ignorable checks patterns enclosing with
  | null =>
    obtain ⟨-, rfl, -⟩ := h.null
    exact .nil
  | boolean =>
    obtain ⟨-, rfl, -⟩ := h.boolean
    exact .nil
  | integer constraints =>
    obtain ⟨-, -, rfl⟩ := h.integer
    exact laid_unlessEmpty fun _ =>
      laid_own stands nofun (.integer constraints cursor optional) rfl _
  | number constraints =>
    obtain ⟨-, -, rfl⟩ := h.number
    exact laid_unlessEmpty fun _ =>
      laid_own stands nofun (.number constraints cursor optional) rfl _
  | string constraints =>
    obtain ⟨-, -, rfl⟩ := h.string
    exact (laid_unlessEmpty fun _ =>
      laid_own stands nofun (.length constraints cursor optional) rfl _).append
        (laid_unlessEmpty fun _ => laid_own stands nofun (.pattern next cursor optional) rfl _)
  | bareArray => exact absurd h not_emits_bareArray
  | array items additionalItems constraints ih =>
    obtain ⟨-, _, elements, hi, -, rfl⟩ := h.array
    have below : ∀ place ∈ cursorsAll elements, cursor.element.LeadsTo place :=
      hi.forall_mem_cursorsAll (.refl _) (fun place leads => leads.trans place.leadsTo_element)
        fun name _ place leads => leads.trans (place.leadsTo_field name)
    exact laid_arrayChecks stands constraints rfl (fun _ inner => ih hi inner) below
  | object properties required ih =>
    obtain ⟨apart, _, members, hm, -, rfl⟩ := h.object
    -- Properties that render apart have names apart, so that each is found by its name.
    have nodup : (properties.map Prod.fst).Nodup :=
      ((sortByName_perm properties).map Prod.fst).nodup_iff.mp (nodup_of_collision? apart)
    have asked : ∀ name ∈ properties.map Prod.fst,
        (TypeNode.requiredNames (sortByName properties) required).contains name =
          requires required name := by
      intro name hn
      rw [Bool.eq_iff_iff, List.contains_iff_mem, TypeNode.mem_requiredNames_sortByName]
      exact and_iff_right hn
    have part {name : String} {node : TypeNode} (hn : (name, node) ∈ properties) :
        TypePlace.part? ⟨cursor, optional, .object properties required⟩ (.field name) =
          some ⟨cursor.field name, !requires required name, node⟩ := by
      simp [part?, lookup_of_nodup nodup hn]
    refine laid_objectChecks stands (fun name hn => ?_) fun enclosing stands entered =>
      hm.closed (P := fun _ checks _ => Laid (Row.Placed target start) enclosing checks) .nil
        .append fun name node hp _ _ _ _ emits => ?_
    · obtain ⟨declared, needed⟩ := TypeNode.mem_requiredNames_sortByName.mp hn
      obtain ⟨⟨name, node⟩, hp, rfl⟩ := List.mem_map.mp declared
      exact ⟨_, part hp, by simp [needed]⟩
    · have hn := mem_sortByName.mp hp
      rw [asked name (List.mem_map_of_mem hn)] at emits
      exact ih name node hn emits (stands.member entered (part hn))
  | enumeration => exact absurd h not_emits_enumeration
  | reference pointer =>
    obtain ⟨entry, -, -, calls⟩ := h.reference
    split at calls
    next =>
      rw [calls.2]
      exact laid_dispatch (stands.placed_of_not_loop nofun rfl fun _ => nofun)
    next =>
      rw [calls.2]
      exact .nil

end EmissionContext

/-- Around a whole type there are no blocks. -/
theorem TypePlace.stands_self {place : TypePlace} (root : place.cursor.steps = []) :
    place.Stands [] place where
  contained := ⟨[], rfl⟩
  guarded := by
    intro other contained _ leads hne
    have same := Cursor.eq_of_leadsTo leads root
    exact absurd (contained.eq_of_cursor_eq ⟨[], rfl⟩ same) hne
  bound := by
    intro array leads
    have steps := congrArg Cursor.steps (Cursor.eq_of_leadsTo leads root)
    simp [Cursor.element, root] at steps
  fresh := nofun

/-- The validator of a whole type is written in blocks. -/
theorem EmissionContext.Emits.blocks {context : EmissionContext} {optional ignorable : Bool}
    {next : Nat} {node : TypeNode} {checks : List Statement} {patterns : List String}
    (h : context.Emits FileParts.root optional next node ignorable checks patterns)
    (names : ∀ name, node.HasProperty name → '\n' ∉ name.toList) :
    ∃ rows : List (Nat × Row),
      textLines (validatorText context.target checks).toList =
        rows.map (Row.line context.target) ∧
      Row.Blocks (Row.Placed context.target ⟨FileParts.root, optional, node⟩) [] rows := by
  have root : FileParts.root.OnOneLine := ⟨by decide, fun _ hm => absurd hm List.not_mem_nil⟩
  have lines := (validatorText_toList context.target (h.onOneLine root names)).2
  exact ⟨_, lines, (h.laid (TypePlace.stands_self rfl)).blocks⟩

end CheckedTypes
