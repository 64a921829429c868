import CheckedTypes.SchemaDocument
import CheckedTypes.JsonReader

namespace CheckedTypes

/-- What a reader of documents may do: how deeply it may nest, and what a list that goes on after
the last keyword is. -/
structure Reading where
  budget : DepthBudget
  surplus : Nat → DocumentFault

/-- Reading a text counts the depth and takes each element as it comes. -/
def Reading.text : Reading :=
  ⟨.ofText, fun _ => .malformed .trailingCharacters⟩

/-- Reading a value knows how many elements there are. -/
def Reading.value : Reading :=
  ⟨none, .tooManyElements⟩

def Reading.enter? (reading : Reading) : Option Reading :=
  reading.budget.enter?.map fun budget => { reading with budget }

structure LocatedDocumentFault where
  path : List PathSegment
  fault : DocumentFault

namespace LocatedDocumentFault

def here (fault : DocumentFault) : LocatedDocumentFault :=
  ⟨[], fault⟩

def malformed (located : LocatedFault) : LocatedDocumentFault :=
  ⟨located.path, .malformed located.fault⟩

def under (segment : PathSegment) (located : LocatedDocumentFault) : LocatedDocumentFault :=
  { located with path := segment :: located.path }

end LocatedDocumentFault

abbrev DocumentResult := Except LocatedDocumentFault

namespace JsonSource

/-- The complaint that a value is not what is asked for; a value that cannot be read complains
for itself. -/
def mismatch (source : JsonSource) (expected : Expected) : LocatedDocumentFault :=
  match source with
  | .null => .here (.wrongKind .null expected)
  | .boolean b => .here (.wrongKind (.boolean b) expected)
  | .number (.ok n) => .here (.wrongKind (.number n) expected)
  | .number (.error fault) => .here (.malformed fault)
  | .string (.ok s) => .here (.wrongKind (.string s) expected)
  | .string (.error fault) => .here (.malformed fault)
  | .list _ _ => .here (.wrongKind .list expected)
  | .object _ _ => .here (.wrongKind .object expected)
  | .broken stop => .here (.malformed stop.read)

def readBoolean : JsonSource → DocumentResult Bool
  | .boolean b => .ok b
  | source => .error (source.mismatch .boolean)

def readString : JsonSource → DocumentResult String
  | .string (.ok s) => .ok s
  | source => .error (source.mismatch .string)

/-- Only what is written as an integer is a natural number. -/
def readNatural : JsonSource → DocumentResult Nat
  | .number (.ok (.integer n)) =>
    if 0 ≤ n then .ok n.toNat else .error (.here (.negative n))
  | source => .error (source.mismatch .naturalNumber)

def readReal : JsonSource → DocumentResult Binary64
  | .number (.ok n) =>
    match n.toBinary64? with
    | some x => .ok x
    | none => .error (.here (.malformed .numberOutOfRange))
  | source => .error (source.mismatch .number)

/-- A value that may be absent may also be null. -/
def optional {α : Type} (read : JsonSource → DocumentResult α) :
    JsonSource → DocumentResult (Option α)
  | .null => .ok none
  | source => (read source).map some

def readAny (reading : Reading) (source : JsonSource) : DocumentResult Json :=
  (source.value reading.budget).mapError .malformed

def elementsOf {α : Type} (read : JsonSource → DocumentResult α) (index : Nat) :
    List JsonSource → ListEnding → DocumentResult (List α)
  | [], .broken stop => .error (.here (.malformed stop.read))
  | [], _ => .ok []
  | source :: rest, ending =>
    match read source with
    | .error located => .error (located.under (.element index))
    | .ok first => (elementsOf read (index + 1) rest ending).map (first :: ·)

def readList {α : Type} (reading : Reading) (read : Reading → JsonSource → DocumentResult α) :
    JsonSource → DocumentResult (List α)
  | .list elements ending =>
    match reading.enter? with
    | none => .error (.here (.malformed .tooDeep))
    | some inner => elementsOf (read inner) 0 elements ending
  | source => .error (source.mismatch .list)

def readStrings (reading : Reading) : JsonSource → DocumentResult (List String) :=
  readList reading (fun _ => readString)

/-- A value that is read as a whole before its form is looked at: its syntax is checked first, and
whatever else is wrong with it is told in one way. -/
def readAlternative {α : Type} (reading : Reading) (alternative : Alternative)
    (source : JsonSource) (form : DocumentResult α) : DocumentResult α :=
  match source.value reading.budget with
  | .error located => .error (.malformed located)
  | .ok _ => form.mapError fun _ => .here (.noAlternative alternative)

def readTypeNames (reading : Reading) (source : JsonSource) : DocumentResult TypeNames :=
  readAlternative reading .typeNames source <|
    match source with
    | .string (.ok name) => .ok (.one name)
    | source => (source.readStrings reading).map .many

def readExclusive (reading : Reading) (source : JsonSource) : DocumentResult Exclusive :=
  readAlternative reading .exclusive source <|
    match source with
    | .boolean b => .ok (.flag b)
    | source => source.readReal.map .bound

end JsonSource

end CheckedTypes
