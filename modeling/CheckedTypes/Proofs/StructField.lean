import CheckedTypes.GeneralCategory
import CheckedTypes.Proofs.EmissionFrame
import CheckedTypes.Proofs.RenderedName

namespace CheckedTypes

/-- The characters of the general category of upper-case letters. -/
def upperLetters : CharSet :=
  ⟨rangesOfRuns (· == GeneralCategory.lu.code) GeneralCategory.runs⟩

/-- The first of these are the capitals of ASCII; a few ranges with diacritics follow. -/
theorem upperLetters_start : ∃ rest,
    upperLetters.ranges = ⟨65, 90⟩ :: ⟨192, 214⟩ :: ⟨216, 222⟩ :: ⟨256, 256⟩ :: rest := by
  have start : upperLetters.ranges.take 4 =
      [⟨65, 90⟩, ⟨192, 214⟩, ⟨216, 222⟩, ⟨256, 256⟩] := by
    decide +kernel
  have split := (List.take_append_drop 4 upperLetters.ranges).symm
  rw [start] at split
  simp only [List.cons_append, List.nil_append] at split
  exact ⟨_, split⟩

theorem isUpper_iff_toNat {c : Char} : c.isUpper = true ↔ 65 ≤ c.toNat ∧ c.toNat ≤ 90 := by
  simp [Char.isUpper, UInt32.le_iff_toNat_le, ← Char.toNat_val]

/-- The upper-case letters of ASCII are its capitals. -/
theorem upperLetters_contains_ascii {c : Char} (ascii : c.toNat < 128) :
    upperLetters.contains c = true ↔ c.isUpper = true := by
  obtain ⟨rest, start⟩ := upperLetters_start
  have far : ¬192 ≤ c.toNat := by omega
  rw [CharSet.contains, start, isUpper_iff_toNat]
  simp [CharSet.anyContains, far]

theorem upperLetters_contains_of_isUpper {c : Char} (upper : c.isUpper = true) :
    upperLetters.contains c = true := by
  have range := isUpper_iff_toNat.mp upper
  exact (upperLetters_contains_ascii (by omega)).mpr upper

/-- A field can be seen from outside if its name begins with an upper-case letter. -/
def IsExported (field : List Char) : Prop :=
  ∃ first ∈ field.head?, upperLetters.contains first = true

/-- Only letters of ASCII are raised: another name has to begin with an upper-case letter itself. -/
theorem isExported_renderName_iff {name : String} :
    IsExported (renderName name).toList ↔
      ∃ first ∈ name.toList.head?, first.isAlpha = true ∨ upperLetters.contains first = true := by
  rw [IsExported, renderName_toList]
  cases name.toList with
  | nil => simp
  | cons c rest =>
    simp only [List.map_cons, List.modifyHead_cons, List.head?_cons, Option.mem_def,
      Option.some.injEq, exists_eq_left']
    by_cases hyphen : c = '-'
    · subst hyphen
      have underscore := upperLetters_contains_ascii (c := '_') (by decide)
      have itself := upperLetters_contains_ascii (c := '-') (by decide)
      simp [underscore, itself]
    · rw [if_neg hyphen]
      cases alpha : c.isAlpha with
      | true =>
        have upper : c.toUpper.isUpper = true := (Char.isUpper_toUpper_eq_isAlpha c).trans alpha
        simp [upperLetters_contains_of_isUpper upper]
      | false =>
        have low : ¬c.isLower = true := fun h => by simp [Char.isAlpha, h] at alpha
        rw [Char.toUpper_eq_of_not_isLower low]
        simp

namespace CodeWriter

variable {w : CodeWriter}

theorem write_of_ne {text : String} (some : text ≠ "") : w.write text =
    { w with text := w.text ++ w.indentation ++ text, atLineStart := false } := by
  simp [write, some]

theorem write_write (w : CodeWriter) (text more : String) :
    (w.write text).write more = w.write (text ++ more) := by
  by_cases first : text = ""
  · simp [write, first]
  · by_cases second : more = ""
    · simp [write, second]
    · simp [write, first, second, indentation, String.append_assoc]

/-- What every line is indented by. -/
def margin (tab : String) (depth : Nat) : String :=
  String.join (List.replicate depth tab)

/-- Lines that are indented and ended already. -/
def append (w : CodeWriter) (lines : String) : CodeWriter :=
  { w with text := w.text ++ lines }

theorem append_append (w : CodeWriter) (lines more : String) :
    (w.append lines).append more = w.append (lines ++ more) := by
  simp [append, String.append_assoc]

theorem line_of_start (start : w.atLineStart = true) {text : String} (some : text ≠ "") :
    w.line text = w.append (margin w.tab w.depth ++ text ++ "\n") := by
  simp [line, write, newline, append, some, indentation, margin, start, String.append_assoc]

theorem foldl_line_of_start {α : Type} {text : α → String} (some : ∀ entry, text entry ≠ "")
    (start : w.atLineStart = true) (list : List α) :
    list.foldl (fun w entry => w.line (text entry)) w = w.append
      (String.join (list.map fun entry => margin w.tab w.depth ++ text entry ++ "\n")) := by
  induction list generalizing w with
  | nil => simp [append]
  | cons entry rest ih =>
    rw [List.foldl_cons, line_of_start start (some entry), ih (w := w.append _) start,
      append_append, List.map_cons, String.join_cons]
    rfl

end CodeWriter

open CodeWriter

/-- A field of a struct: what it is called in the document, whether it may be absent, and the text
of its type. -/
structure StructField where
  name : String
  optional : Bool
  type : String

namespace StructField

/-- What stands between the back quotes. -/
def tag (field : StructField) : String :=
  "json:\"" ++ field.name ++ (if field.optional then ",omitempty" else "") ++ "\""

/-- The tag and its quotes are written at once. -/
theorem tag_text (field : StructField) : " `json:\"" ++ field.name ++
    (if field.optional then ",omitempty" else "") ++ "\"`" = " `" ++ field.tag ++ "`" := by
  have opening : " `json:\"" = " `" ++ "json:\"" := by decide
  have closing : "\"`" = "\"" ++ "`" := by decide
  rw [tag, opening, closing]
  simp only [String.append_assoc]

def text (field : StructField) : String :=
  renderName field.name ++ " " ++ field.type ++ " `" ++ field.tag ++ "`"

theorem text_ne_empty (field : StructField) : field.text ≠ "" := by
  simp [text]

end StructField

def structText (optional : Bool) (tab : String) (depth : Nat) (fields : List StructField) :
    String :=
  Target.go.optionalMark optional ++ "struct \x7b\n" ++
    String.join (fields.map fun field => margin tab (depth + 1) ++ field.text ++ "\n") ++
    margin tab depth ++ "\x7d"

namespace DeclaredType

mutual
/-- The text of a type that is declared at some depth. -/
def goText (tab : String) : (depth : Nat) → DeclaredType → String
  | _, .null optional => Target.go.optionalMark optional ++ "null"
  | _, .scalar kind optional => Target.go.optionalMark optional ++ Target.go.scalarName kind
  | depth, .sequence elements => "[]" ++ elements.goText tab depth
  | depth, .record members optional =>
    structText optional tab depth (structFields tab (depth + 1) members)
  | _, .reference ident optional => Target.go.optionalMark optional ++ ident
def structFields (tab : String) :
    (depth : Nat) → List (String × Bool × DeclaredType) → List StructField
  | _, [] => []
  | depth, (name, optional, type) :: rest =>
    ⟨name, optional, type.goText tab depth⟩ :: structFields tab depth rest
end

end DeclaredType

namespace CodeWriter

mutual
/-- The declaration of a type continues the line that it begins in. -/
theorem putAll_pieces : ∀ (w : CodeWriter) (type : DeclaredType),
    w.putAll (type.pieces .go) = w.write (type.goText w.tab w.depth)
  | w, .null _ => rfl
  | w, .scalar _ _ => rfl
  | w, .sequence elements => by
    have inside := putAll_pieces (w.write "[]") elements
    rw [DeclaredType.pieces, putAll_append, putAll_append, DeclaredType.goText]
    show (w.write "[]").putAll (elements.pieces .go) = _
    rw [inside, write_tab, write_depth, write_write]
  | w, .record members optional => by
    have first : w.putAll (Target.go.recordStart optional) =
        ((w.write (Target.go.optionalMark optional ++ "struct \x7b")).newline).indent := rfl
    have body := putAll_memberPieces
      ((w.write (Target.go.optionalMark optional ++ "struct \x7b")).newline).indent members
    rw [foldl_line_of_start StructField.text_ne_empty rfl] at body
    have header : Target.go.optionalMark optional ++ "struct \x7b" ≠ "" := by simp
    have whole (fields : List StructField) : structText optional w.tab w.depth fields ≠ "" := by
      simp [structText]
    have brace (w : CodeWriter) : w.putAll (Target.go.recordEnd) = w.dedent.write "\x7d" := rfl
    rw [DeclaredType.pieces, putAll_append, putAll_append, first, body, brace, DeclaredType.goText,
      write_of_ne header, write_of_ne (by decide : "\x7d" ≠ ""), write_of_ne (whole _)]
    simp [newline, indent, dedent, append, indentation, structText, margin, String.append_assoc]
  | w, .reference ident optional => write_write w _ _
/-- Members are written one to a line. -/
theorem putAll_memberPieces : ∀ (w : CodeWriter) (members : List (String × Bool × DeclaredType)),
    w.putAll (DeclaredType.memberPieces .go members) =
      (DeclaredType.structFields w.tab w.depth members).foldl (fun w field => w.line field.text) w
  | w, [] => rfl
  | w, (name, optional, type) :: rest => by
    have first : w.putAll (Target.go.fieldStart name optional) =
      (w.write (renderName name)).write " " := rfl
    have last (w : CodeWriter) : w.putAll (Target.go.fieldEnd name optional) =
        w.line (" `" ++ (StructField.mk name optional "").tag ++ "`") :=
      congrArg w.line (StructField.mk name optional "").tag_text
    have field : w.putAll (Target.go.fieldStart name optional ++ type.pieces .go ++
        Target.go.fieldEnd name optional) =
          w.line (StructField.mk name optional (type.goText w.tab w.depth)).text := by
      rw [putAll_append, putAll_append, first, write_write, putAll_pieces, last, line, write_write,
        write_write, write_tab, write_depth, StructField.text]
      simp [line, StructField.tag, String.append_assoc]
    rw [DeclaredType.memberPieces, putAll_append, field, putAll_memberPieces,
      DeclaredType.structFields, List.foldl_cons]
    simp only [line, newline, write_tab, write_depth]
end

end CodeWriter

/-- The value of a literal between back quotes, which drops carriage returns. -/
def rawLiteral (text : List Char) : List Char :=
  text.filter (· ≠ '\r')

/-- The key that a tag files a field under: the quoted text up to the first comma, where a lone
hyphen says to skip the field. Nothing is read from a text that does not stand for itself, since it
holds escapes or line ends. -/
def tagKey? : (tag : List Char) → Option (List Char)
  | 'j' :: 's' :: 'o' :: 'n' :: ':' :: '"' :: rest =>
    let text := rest.takeWhile (· ≠ '"')
    if rest.dropWhile (· ≠ '"') ≠ ['"'] ∨ '\\' ∈ text ∨ '\n' ∈ text ∨ text = ['-'] then none
    else some (text.takeWhile (· ≠ ','))
  | _ => none

/-- What a tag can carry as it is. -/
structure IsTagKey (name : String) (optional : Bool) : Prop where
  plain : ∀ c ∈ name.toList, c ∉ ['`', '"', '\\', ',', '\n', '\r']
  shown : optional = false → name ≠ "-"

namespace StructField

variable {field : StructField}

/-- What the tag quotes. -/
def quoted (field : StructField) : List Char :=
  field.name.toList ++ (if field.optional then ",omitempty" else "").toList

theorem tag_toList : field.tag.toList =
    'j' :: 's' :: 'o' :: 'n' :: ':' :: '"' :: (field.quoted ++ ['"']) := by
  simp [tag, quoted]

theorem not_mem_quoted (key : IsTagKey field.name field.optional) {c : Char}
    (special : c ∈ ['`', '"', '\\', '\n', '\r']) : c ∉ field.quoted := by
  rintro mem
  rcases List.mem_append.mp mem with named | option
  · have more : ['`', '"', '\\', '\n', '\r'] ⊆ ['`', '"', '\\', ',', '\n', '\r'] := by simp
    exact key.plain c named (more special)
  · simp only [List.mem_cons, List.not_mem_nil, or_false] at special
    rcases special with rfl | rfl | rfl | rfl | rfl <;>
      cases optional : field.optional <;> simp [optional] at option

theorem not_mem_tag (key : IsTagKey field.name field.optional) {c : Char}
    (special : c ∈ ['`', '\r']) : c ∉ field.tag.toList := by
  have more : ['`', '\r'] ⊆ ['`', '"', '\\', '\n', '\r'] := by simp
  have apart := not_mem_quoted key (more special)
  rw [tag_toList]
  rcases List.mem_pair.mp special with rfl | rfl <;> simp [apart]

/-- A tag files the field under the name that it has in the document. -/
theorem tagKey?_tag (key : IsTagKey field.name field.optional) :
    tagKey? (rawLiteral field.tag.toList) = some field.name.toList := by
  have literal : rawLiteral field.tag.toList = field.tag.toList := by
    refine List.filter_eq_self.mpr fun c mem => decide_eq_true ?_
    rintro rfl
    exact not_mem_tag key (by simp) mem
  have inside : ∀ c ∈ field.quoted, decide (c ≠ '"') = true := by
    intro c mem
    refine decide_eq_true ?_
    rintro rfl
    exact not_mem_quoted key (by simp) mem
  have text : (field.quoted ++ ['"']).takeWhile (· ≠ '"') = field.quoted := by
    rw [List.takeWhile_append_of_pos inside]
    simp
  have rest : (field.quoted ++ ['"']).dropWhile (· ≠ '"') = ['"'] := by
    rw [List.dropWhile_append_of_pos inside]
    simp
  have escape : '\\' ∉ field.quoted := not_mem_quoted key (by simp)
  have line : '\n' ∉ field.quoted := not_mem_quoted key (by simp)
  have shown : field.quoted ≠ ['-'] := by
    intro lone
    cases optional : field.optional with
    | false =>
      rw [quoted, optional] at lone
      exact key.shown optional (String.toList_inj.mp (by simpa using lone))
    | true =>
      rw [quoted, optional] at lone
      simpa using congrArg List.length lone
  have name : field.quoted.takeWhile (· ≠ ',') = field.name.toList := by
    have plain : ∀ c ∈ field.name.toList, decide (c ≠ ',') = true := by
      intro c mem
      refine decide_eq_true ?_
      rintro rfl
      exact key.plain ',' mem (by simp)
    have stops : ∀ optional : Bool,
        (if optional then ",omitempty" else "").toList.takeWhile (· ≠ ',') = [] := by
      decide +kernel
    rw [quoted, List.takeWhile_append_of_pos plain, stops, List.append_nil]
  rw [literal, tag_toList, tagKey?]
  rw [text, rest, if_neg (by simp [escape, line, shown]), name]

end StructField

namespace TypeNode

variable {table : TypeTable} {required : List String}

/-- The fields of a struct are the properties, each with what is declared for its type. -/
theorem DeclaresMembers.structFields {properties : List (String × TypeNode)}
    {members : List (String × Bool × DeclaredType)}
    (h : DeclaresMembers table required properties members) (tab : String) (depth : Nat) :
    (DeclaredType.structFields tab depth members).map StructField.name =
        properties.map Prod.fst ∧
      ∀ field ∈ DeclaredType.structFields tab depth members, ∃ node type,
        (field.name, node) ∈ properties ∧ field.optional = !required.contains field.name ∧
          node.Declares table field.optional type ∧ field.type = type.goText tab depth := by
  induction properties generalizing members with
  | nil =>
    cases h
    exact ⟨rfl, nofun⟩
  | cons property rest ih =>
    cases h with
    | cons first others =>
      obtain ⟨names, each⟩ := ih others
      refine ⟨congrArg (_ :: ·) names, List.forall_mem_cons.mpr ⟨?_, fun field mem => ?_⟩⟩
      · exact ⟨_, _, List.mem_cons_self, rfl, first, rfl⟩
      · obtain ⟨node, type, declared, known⟩ := each field mem
        exact ⟨node, type, List.mem_cons_of_mem _ declared, known⟩

end TypeNode

namespace EmissionContext

/-- A struct has one field for each property, in the order of their names. The field is seen from
outside exactly if the name begins with a letter of ASCII or with an upper-case letter, and a name
that a tag can carry is the key that the tag files the field under. -/
theorem emission_struct_fields {context : EmissionContext} {cursor : Cursor} {optional : Bool}
    {next : Nat} {properties : List (String × TypeNode)} {required : Option (List String)}
    {result : Bool × List Statement} (go : context.target = .go)
    (accepted : (context.emission cursor optional next
      (TypeNode.object properties required).sorted).outcome = .ok result) (w : CodeWriter) :
    ∃ fields : List StructField,
      fields.map StructField.name = (sortByName properties).map Prod.fst ∧
      w.putAll (context.emission cursor optional next
          (TypeNode.object properties required).sorted).declaration =
        w.write (structText optional w.tab w.depth fields) ∧
      ∀ field ∈ fields,
        (∃ node type, (field.name, node) ∈ properties ∧
          field.optional = !requires required field.name ∧
          node.Declares context.table field.optional type ∧
          field.type = type.goText w.tab (w.depth + 1)) ∧
        (IsExported (renderName field.name).toList ↔ ∃ first ∈ field.name.toList.head?,
          first.isAlpha = true ∨ upperLetters.contains first = true) ∧
        (IsTagKey field.name field.optional → '`' ∉ field.tag.toList ∧
          tagKey? (rawLiteral field.tag.toList) = some field.name.toList) := by
  obtain ⟨type, declares, spelled⟩ := exists_declaredType accepted
  cases declares with
  | object declares =>
    obtain ⟨names, each⟩ := declares.structFields w.tab (w.depth + 1)
    refine ⟨_, names, ?_, fun field mem => ?_⟩
    · rw [spelled, go, CodeWriter.putAll_pieces, DeclaredType.goText]
    · obtain ⟨node, type, declared, demanded, known⟩ := each field mem
      refine ⟨⟨node, type, mem_sortByName.mp declared, ?_, known⟩, isExported_renderName_iff,
        fun key => ⟨StructField.not_mem_tag key (by simp), StructField.tagKey?_tag key⟩⟩
      have name : field.name ∈ (sortByName properties).map Prod.fst :=
        List.mem_map_of_mem declared
      rw [demanded, Bool.eq_iff_iff]
      simp [TypeNode.requiredNames, requires, name]

/-- A name that can be seen and one that cannot. -/
def menuNode : TypeNode :=
  .object [("price", .number ⟨none, none, none⟩), ("élan", .boolean)] (some ["élan"])

theorem emission_struct_fields_menu : shelfContext.target = .go ∧
    (∃ result, (shelfContext.emission FileParts.root false 0 menuNode.sorted).outcome =
      .ok result) ∧
    ∃ fields : List StructField, fields.map StructField.name = ["price", "élan"] ∧
      ∀ field ∈ fields, field.name = "price" → IsExported (renderName field.name).toList ∧
        tagKey? (rawLiteral field.tag.toList) = some "price".toList := by
  have accepted : ∃ result, (shelfContext.emission FileParts.root false 0
      menuNode.sorted).outcome = .ok result := ⟨_, by cbv⟩
  refine ⟨rfl, accepted, ?_⟩
  obtain ⟨result, accepted⟩ := accepted
  obtain ⟨fields, names, -, each⟩ := emission_struct_fields rfl accepted { tab := "\t" }
  refine ⟨fields, names.trans (by cbv), fun field mem name => ?_⟩
  obtain ⟨-, exported, tagged⟩ := each field mem
  rw [name] at exported tagged
  have key : IsTagKey "price" field.optional := ⟨by simp, fun _ => by decide⟩
  exact ⟨name ▸ exported.mpr ⟨'p', by decide, .inl (by decide)⟩, (tagged key).2⟩

/-- The field of the other name is written as it is and begins with no upper-case letter. -/
theorem emission_struct_fields_hidden :
    (∃ result, (shelfContext.emission FileParts.root false 0 menuNode.sorted).outcome =
      .ok result) ∧
    (CodeWriter.putAll { tab := "\t" }
        (shelfContext.emission FileParts.root false 0 menuNode.sorted).declaration).text =
      "struct \x7b\n\tPrice *float64 `json:\"price,omitempty\"`\n" ++
        "\télan bool `json:\"élan\"`\n\x7d" ∧
    ¬IsExported "élan".toList := by
  refine ⟨⟨_, by cbv⟩, ?_, ?_⟩
  · have declares : ∃ pieces, (shelfContext.emission FileParts.root false 0
        menuNode.sorted).declaration = pieces ∧
        (CodeWriter.putAll { tab := "\t" } pieces).text =
          "struct \x7b\n\tPrice *float64 `json:\"price,omitempty\"`\n" ++
            "\télan bool `json:\"élan\"`\n\x7d" := ⟨_, by cbv, by decide⟩
    obtain ⟨pieces, declared, text⟩ := declares
    rw [declared, text]
  · rintro ⟨first, head, upper⟩
    obtain rfl : 'é' = first := by simpa using head
    obtain ⟨rest, start⟩ := upperLetters_start
    rw [CharSet.contains, start] at upper
    simp [CharSet.anyContains] at upper

end EmissionContext

end CheckedTypes
