import CheckedTypes.Proofs.FileWrite
import CheckedTypes.Proofs.LoadedDocument
import CheckedTypes.Proofs.WellFormedSchema

namespace CheckedTypes

namespace World

variable {world after : World}

/-- Directories were created in the world, and that is all. -/
def Grows (paths : List String) (world after : World) : Prop :=
  world.tree.Grows paths after.tree ∧ after = { world with tree := after.tree }

theorem Grows.refl (paths : List String) (world : World) : world.Grows paths world :=
  ⟨.refl paths world.tree, rfl⟩

theorem Grows.trans {paths more : List String} {last : World} (h : world.Grows paths after)
    (h' : after.Grows more last) (inside : paths ⊆ more) : world.Grows more last := by
  obtain ⟨tree, same⟩ := h
  obtain ⟨tree', same'⟩ := h'
  refine ⟨tree.trans tree' inside, ?_⟩
  rw [same', same]

end World

variable {settings : GenerateSettings} {target : Target} {modulePath : String}

end CheckedTypes
