import CheckedTypes.Proofs.PlacedRows

namespace CheckedTypes

namespace TypeNode

variable {name : String}

end TypeNode

namespace EmissionContext

variable {context : EmissionContext} {optional ignorable : Bool} {next : Nat} {node : TypeNode}
  {checks : List Statement} {patterns : List String}

end EmissionContext

end CheckedTypes
