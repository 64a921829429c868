import CheckedTypes.KeywordReader

namespace CheckedTypes

/-- What a value is where documents are asked for: one document, named documents, or several. -/
structure DocumentForms where
  single : DocumentResult SchemaDocument
  named : DocumentResult (List (String × SchemaDocument))
  tuple : DocumentResult (List SchemaDocument)

structure ReadPart where
  source : JsonSource
  forms : DocumentForms

abbrev ReadMember := Except JsonFault String × ReadPart

/-- The fault where a member stops before its name is known or before its value starts. -/
def ObjectEnding.fault? : ObjectEnding → Option LocatedDocumentFault
  | .brokenKey stop => some ⟨[.unknown], .malformed stop.read⟩
  | .brokenColon (.error fault) _ => some ⟨[.unknown], .malformed fault⟩
  | .brokenColon (.ok _) stop => some (.here (.malformed stop.read))
  | _ => none

def ObjectEnding.lastKeyword? : ObjectEnding → Option Keyword
  | .brokenColon (.ok name) _ => Keyword.ofName? name
  | _ => none

namespace ReadPart

def documents (part : ReadPart) : DocumentResult (Option (List (String × SchemaDocument))) :=
  match part.source with
  | .null => .ok none
  | _ => part.forms.named.map some

/-- A list is a tuple if it can be, and else one document given as a list. -/
def items (reading : Reading) (part : ReadPart) :
    DocumentResult (Option (Items SchemaDocument)) :=
  match part.source with
  | .null => .ok none
  | source =>
    (JsonSource.readAlternative reading .items source <|
      match part.forms.tuple with
      | .ok documents => .ok (.tuple documents)
      | .error _ => part.forms.single.map .single).map some

end ReadPart

namespace SchemaDocument

def readKeyword (reading : Reading) (document : SchemaDocument) (keyword : Keyword)
    (part : ReadPart) : DocumentResult SchemaDocument :=
  let source := part.source
  match keyword with
  | .type =>
    (source.optional (·.readTypeNames reading)).map ({ document with typeNames := · })
  | .ref => (source.optional (·.readString)).map ({ document with ref := · })
  | .enum =>
    (source.optional (·.readList reading fun inner element => element.readAny inner)).map
      ({ document with enum := · })
  | .properties => part.documents.map ({ document with properties := · })
  | .required => (source.optional (·.readStrings reading)).map ({ document with required := · })
  | .items => (part.items reading).map ({ document with items := · })
  | .additionalItems =>
    (source.optional (·.readAny reading)).map ({ document with additionalItems := · })
  | .minItems => (source.optional (·.readNatural)).map ({ document with array.minItems := · })
  | .maxItems => (source.optional (·.readNatural)).map ({ document with array.maxItems := · })
  | .uniqueItems => source.readBoolean.map ({ document with array.uniqueItems := · })
  | .minimum => (source.optional (·.readReal)).map ({ document with numeric.minimum := · })
  | .maximum => (source.optional (·.readReal)).map ({ document with numeric.maximum := · })
  | .exclusiveMinimum =>
    (source.optional (·.readExclusive reading)).map
      ({ document with numeric.exclusiveMinimum := · })
  | .exclusiveMaximum =>
    (source.optional (·.readExclusive reading)).map
      ({ document with numeric.exclusiveMaximum := · })
  | .multipleOf => (source.optional (·.readReal)).map ({ document with numeric.multipleOf := · })
  | .minLength => (source.optional (·.readNatural)).map ({ document with string.minLength := · })
  | .maxLength => (source.optional (·.readNatural)).map ({ document with string.maxLength := · })
  | .pattern => (source.optional (·.readString)).map ({ document with string.pattern := · })
  | .format => (source.optional (·.readString)).map ({ document with string.format := · })
  | .definitions => part.documents.map ({ document with definitions := · })
  | .defs => part.documents.map ({ document with defs := · })

/-- The document that members make up: each keyword once, and names that are none are skipped. -/
def ofMembers (reading : Reading) (seen : List Keyword) (document : SchemaDocument) :
    List ReadMember → ObjectEnding → DocumentResult SchemaDocument
  | [], ending =>
    match ending.lastKeyword?.filter seen.contains with
    | some keyword => .error (.here (.repeatedKeyword keyword))
    | none =>
      match ending.fault? with
      | some fault => .error fault
      | none => .ok document
  | (.error fault, _) :: _, _ => .error ⟨[.unknown], .malformed fault⟩
  | (.ok name, part) :: rest, ending =>
    match Keyword.ofName? name with
    | none =>
      match part.source.skipFault? with
      | some fault => .error ⟨[.member name], .malformed fault⟩
      | none => ofMembers reading seen document rest ending
    | some keyword =>
      if seen.contains keyword then .error (.here (.repeatedKeyword keyword))
      else
        match readKeyword reading document keyword part with
        | .error located => .error (located.under (.member name))
        | .ok document => ofMembers reading (keyword :: seen) document rest ending

/-- The count in the complaint about a list that ends before `keyword`: a keyword with a default
may be missing, so that the next one is missed. -/
def shortCount (index : Nat) (keyword : Keyword) : Nat :=
  if keyword = .uniqueItems then index + 1 else index

/-- After the last keyword a list may only be closed: what else follows is too much. -/
def endFault : JsonFault → JsonFault
  | .endOfValue => .trailingCharacters
  | .expectedListEnd => .trailingCharacters
  | fault => fault

def ofElements (reading : Reading) (index : Nat) (document : SchemaDocument) :
    List Keyword → List ReadPart → ListEnding → DocumentResult SchemaDocument
  | [], [], .broken stop => .error (.here (.malformed (endFault stop.read)))
  | _, [], .broken stop => .error (.here (.malformed stop.read))
  | keyword :: _, [], _ => .error (.here (.tooFewElements (shortCount index keyword)))
  | [], [], _ => .ok document
  | [], surplus, _ => .error (.here (reading.surplus (index + surplus.length)))
  | keyword :: keywords, part :: parts, ending =>
    match readKeyword reading document keyword part with
    | .error located => .error (located.under (.element index))
    | .ok document => ofElements reading (index + 1) document keywords parts ending

/-- Named documents; of one name the first gives the place and the last the document. -/
def namedOfMembers (before : List (String × SchemaDocument)) :
    List ReadMember → ObjectEnding → DocumentResult (List (String × SchemaDocument))
  | [], ending =>
    match ending.fault? with
    | some fault => .error fault
    | none => .ok before
  | (.error fault, _) :: _, _ => .error ⟨[.unknown], .malformed fault⟩
  | (.ok name, part) :: rest, ending =>
    match part.forms.single with
    | .error located => .error (located.under (.member name))
    | .ok document => namedOfMembers (insertMember name document before) rest ending

def tupleOfElements (index : Nat) :
    List ReadPart → ListEnding → DocumentResult (List SchemaDocument)
  | [], .broken stop => .error (.here (.malformed stop.read))
  | [], _ => .ok []
  | part :: rest, ending =>
    match part.forms.single with
    | .error located => .error (located.under (.element index))
    | .ok first => (tupleOfElements (index + 1) rest ending).map (first :: ·)

end SchemaDocument

namespace DocumentForms

def mismatched (source : JsonSource) : DocumentForms where
  single := .error (source.mismatch .document)
  named := .error (source.mismatch .object)
  tuple := .error (source.mismatch .list)

def tooDeepObject : DocumentForms where
  single := .error (.here (.malformed .tooDeep))
  named := .error (.here (.malformed .tooDeep))
  tuple := .error (.here (.wrongKind .object .list))

def tooDeepList : DocumentForms where
  single := .error (.here (.malformed .tooDeep))
  named := .error (.here (.wrongKind .list .object))
  tuple := .error (.here (.malformed .tooDeep))

def ofMembers (reading : Reading) (members : List ReadMember) (ending : ObjectEnding) :
    DocumentForms where
  single := SchemaDocument.ofMembers reading [] {} members ending
  named := SchemaDocument.namedOfMembers [] members ending
  tuple := .error (.here (.wrongKind .object .list))

def ofElements (reading : Reading) (parts : List ReadPart) (ending : ListEnding) :
    DocumentForms where
  single := SchemaDocument.ofElements reading 0 {} Keyword.all parts ending
  named := .error (.here (.wrongKind .list .object))
  tuple := SchemaDocument.tupleOfElements 0 parts ending

mutual
def ofSource (reading : Reading) : JsonSource → DocumentForms
  | .object members ending =>
    match reading.enter? with
    | none => tooDeepObject
    | some inner => ofMembers inner (partsOfMembers inner members) ending
  | .list elements ending =>
    match reading.enter? with
    | none => tooDeepList
    | some inner => ofElements inner (partsOfElements inner elements) ending
  | source => mismatched source
def partsOfElements (reading : Reading) : List JsonSource → List ReadPart
  | [] => []
  | source :: rest => ⟨source, ofSource reading source⟩ :: partsOfElements reading rest
def partsOfMembers (reading : Reading) :
    List (Except JsonFault String × JsonSource) → List ReadMember
  | [] => []
  | (name, source) :: rest =>
    (name, ⟨source, ofSource reading source⟩) :: partsOfMembers reading rest
end

end DocumentForms

namespace SchemaDocument

def ofSource (reading : Reading) (source : JsonSource) : Except GenerateError SchemaDocument :=
  (DocumentForms.ofSource reading source).single.mapError fun located =>
    .document located.path located.fault

def ofText (text : String) : Except GenerateError SchemaDocument :=
  ofSource .text (JsonSource.ofSymbols (symbolsOfText text))

def ofBytes (bytes : ByteArray) : Except GenerateError SchemaDocument :=
  ofSource .text (JsonSource.ofSymbols (symbolsOfBytes bytes))

def ofValue (value : Json) : Except GenerateError SchemaDocument :=
  ofSource .value (JsonSource.ofValue value)

end SchemaDocument

end CheckedTypes
