import CheckedTypes.Proofs.LoadedDocument

namespace CheckedTypes

namespace World

variable {α β : Type}

/-- An action looks at the world and leaves it as it is. -/
def Looks (action : StateM World α) : Prop :=
  ∀ world, (action.run world).2 = world

theorem Looks.pure (a : α) : Looks (pure a : StateM World α) :=
  fun _ => rfl

theorem Looks.bind {action : StateM World α} {next : α → StateM World β} (h : Looks action)
    (h' : ∀ a, Looks (next a)) : Looks (action >>= next) := by
  intro world
  rw [run_bind, h' _, h]

section

open PathPattern

variable {onlyDirectories : Bool} {fuel : Nat} {rest : List GlobPattern}

end

end World

/-- An argument stands for itself or, as a pattern, for the paths that are found, of which there has
to be one. -/
def World.Expands (world : World) (argument : String) (found : List String) : Prop :=
  if hasGlobChars argument then
    found ≠ [] ∧ ∃ pattern, PathPattern.ofText argument = .ok pattern ∧
      ((pattern.search World.host).run world).1 = found
  else found = [argument]

/-- The arguments stand for these paths, in their order. -/
def World.Resolves (world : World) (arguments paths : List String) : Prop :=
  ∃ found, List.Forall₂ world.Expands arguments found ∧ paths = found.flatten

theorem World.Expands.unique {world : World} {argument : String} {found found' : List String}
    (h : world.Expands argument found) (h' : world.Expands argument found') : found = found' := by
  unfold World.Expands at h h'
  split at h
  next glob =>
    rw [if_pos glob] at h'
    obtain ⟨-, pattern, parsed, rfl⟩ := h
    obtain ⟨-, pattern', parsed', rfl⟩ := h'
    cases parsed.symm.trans parsed'
    rfl
  next plain =>
    rw [if_neg plain] at h'
    rw [h, h']

theorem World.resolves_nil {world : World} {paths : List String} :
    world.Resolves [] paths ↔ paths = [] := by
  constructor
  · rintro ⟨_, ⟨⟩, rfl⟩
    rfl
  · rintro rfl
    exact ⟨[], .nil, rfl⟩

theorem World.resolves_cons {world : World} {argument : String} {rest paths : List String} :
    world.Resolves (argument :: rest) paths ↔ ∃ found others, world.Expands argument found ∧
      world.Resolves rest others ∧ paths = found ++ others := by
  constructor
  · rintro ⟨_, listed, rfl⟩
    cases listed with
    | cons here behind => exact ⟨_, _, here, ⟨_, behind, rfl⟩, List.flatten_cons⟩
  · rintro ⟨found, _, here, ⟨others, behind, rfl⟩, rfl⟩
    exact ⟨found :: others, .cons here behind, List.flatten_cons.symm⟩

theorem World.resolves_unique {world : World} {arguments paths others : List String}
    (h : world.Resolves arguments paths) (h' : world.Resolves arguments others) :
    paths = others := by
  induction arguments generalizing paths others with
  | nil => rw [resolves_nil.mp h, resolves_nil.mp h']
  | cons argument rest ih =>
    obtain ⟨found, behind, here, hb, rfl⟩ := resolves_cons.mp h
    obtain ⟨found', behind', here', hb', rfl⟩ := resolves_cons.mp h'
    rw [here.unique here', ih hb hb']

end CheckedTypes
