import CheckedTypes.CommandRun
import CheckedTypes.FileTree
import CheckedTypes.Proofs.CheckFault
import CheckedTypes.Proofs.DocumentPart
import CheckedTypes.Proofs.ValidatorRows

namespace CheckedTypes

/-! Which texts of faults stand on one line. -/

theorem newline_not_mem_append {text other : String} (h : '\n' ∉ text.toList)
    (h' : '\n' ∉ other.toList) : '\n' ∉ (text ++ other).toList := by
  rw [String.toList_append, List.mem_append]
  exact fun hm => hm.elim h h'

/-- What is not of this program's making has a text of its own. -/
def FileFault.IsKnown (fault : FileFault) : Prop :=
  ∀ text, fault ≠ .other text

theorem FileFault.IsKnown.newline_not_mem {fault : FileFault} (h : fault.IsKnown) :
    '\n' ∉ fault.message.toList := by
  cases fault with
  | other text => exact absurd rfl (h text)
  | _ => decide

theorem JsonFault.newline_not_mem (fault : JsonFault) : '\n' ∉ fault.message.toList := by
  cases fault <;> decide

theorem ValueStep.newline_not_mem (step : ValueStep) : '\n' ∉ step.text.toList := by
  cases step with
  | key name =>
    exact newline_not_mem_append (newline_not_mem_append (by decide) (newline_not_mem_quote name))
      (by decide)
  | index position =>
    exact newline_not_mem_append (newline_not_mem_append (by decide)
      (newline_not_mem_toString position)) (by decide)

namespace TypeTable

variable {table : TypeTable} {fault : CheckError}

end TypeTable

namespace FileTree

variable {tree : FileTree} {path : String} {fault : FileFault}

end FileTree

end CheckedTypes
