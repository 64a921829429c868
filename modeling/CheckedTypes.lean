import CheckedTypes.Main
import CheckedTypes.Proofs.CheckOutcome
import CheckedTypes.Proofs.CheckedRearrangement
import CheckedTypes.Proofs.CursorDescent
import CheckedTypes.Proofs.DeclaredShape
import CheckedTypes.Proofs.DistinctElements
import CheckedTypes.Proofs.DocumentNames
import CheckedTypes.Proofs.EmbeddedText
import CheckedTypes.Proofs.EmissionFrame
import CheckedTypes.Proofs.FirstFault
import CheckedTypes.Proofs.FirstViolation
import CheckedTypes.Proofs.GeneratedFile
import CheckedTypes.Proofs.GeneratedValidators
import CheckedTypes.Proofs.InstanceReport
import CheckedTypes.Proofs.NameClash
import CheckedTypes.Proofs.NegatedPredicate
import CheckedTypes.Proofs.NullMember
import CheckedTypes.Proofs.PendingCheck
import CheckedTypes.Proofs.RefusedDocument
import CheckedTypes.Proofs.RoundedInteger
import CheckedTypes.Proofs.StructField
import CheckedTypes.Proofs.ValidatorBlocks
import CheckedTypes.Proofs.WrittenValidators
