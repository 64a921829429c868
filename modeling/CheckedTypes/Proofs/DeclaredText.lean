import CheckedTypes.Proofs.FileItem
import CheckedTypes.Proofs.WrittenText

namespace CheckedTypes

theorem newline_not_mem_renderName {name : String} (h : '\n' ∉ name.toList) :
    '\n' ∉ (renderName name).toList := by
  have upper (c : Char) (hc : c ≠ '\n') : c.toUpper ≠ '\n' := by
    intro hu
    unfold Char.toUpper at hu
    split at hu
    next low =>
      have moved := congrArg Char.val hu
      grind
    next => exact hc hu
  have plain : '\n' ∉ name.toList.map fun c => if c = '-' then '_' else c := by
    intro hm
    obtain ⟨c, hc, he⟩ := List.mem_map.mp hm
    split at he
    next => cases he
    next => exact h (he ▸ hc)
  unfold renderName
  split
  next => simp
  next first rest hs =>
    rw [hs] at plain
    obtain ⟨hf, hr⟩ := List.ne_and_not_mem_of_not_mem_cons plain
    rw [String.toList_ofList]
    exact List.not_mem_cons_of_ne_of_not_mem (Ne.symm (upper first hf.symm)) hr

/-- The names that a type has of its own. -/
def TypeNode.ownNames : TypeNode → List String
  | .object properties _ => properties.map Prod.fst
  | .enumeration values => values
  | _ => []

/-- No name that the types of a table have is spread over lines. -/
structure TypeTable.NamesOnOneLine (table : TypeTable) : Prop where
  ident : ∀ entry ∈ table.entries, '\n' ∉ entry.ident.toList
  name : ∀ entry ∈ table.entries, ∀ part : TypeNode, part.Within entry.node →
    ∀ name ∈ part.ownNames, '\n' ∉ name.toList

namespace CodeWriter

/-- No line but the first begins with this letter. -/
structure Calm (w : CodeWriter) (c : Char) : Prop where
  letter : c.isAlpha = true
  tab_eq : w.tab = "\t"
  apart : ¬['\n', c] <:+: w.text.toList
  inside : w.atLineStart = false → w.text.toList.getLast? ≠ some '\n'

theorem not_infix_append {c : Char} {text more : List Char} (h : ¬['\n', c] <:+: text)
    (plain : '\n' ∉ more) (start : text.getLast? = some '\n' → more.head? ≠ some c) :
    ¬['\n', c] <:+: text ++ more := by
  rintro ⟨before, after, he⟩
  rw [List.append_assoc] at he
  rw [List.cons_append, List.cons_append, List.nil_append] at he
  rcases List.append_eq_append_iff.mp he with ⟨part, rfl, hp⟩ | ⟨part, rfl, hp⟩
  · cases part with
    | nil =>
      rw [List.nil_append] at hp
      exact plain (hp ▸ List.mem_cons_self)
    | cons d part =>
      obtain ⟨rfl, hp'⟩ := List.cons.inj hp
      cases part with
      | nil => exact start (by simp) (congrArg List.head? hp').symm
      | cons e part =>
        obtain ⟨rfl, -⟩ := List.cons.inj hp'
        exact h ⟨before, part, by simp⟩
  · exact plain (by simp [hp])

variable {w : CodeWriter} {c : Char}

theorem Calm.ne {d : Char} (h : w.Calm c) (hd : d.isAlpha = false) : d ≠ c := by
  rintro rfl
  exact Bool.false_ne_true (hd.symm.trans h.letter)

theorem calm_of_not_mem (letter : c.isAlpha = true) (tab : w.tab = "\t")
    (plain : '\n' ∉ w.text.toList) : w.Calm c :=
  ⟨letter, tab, fun found => plain (found.subset (by simp)), fun _ last =>
    plain (List.mem_of_getLast? last)⟩

theorem Calm.newline (h : w.Calm c) : w.newline.Calm c where
  letter := h.letter
  tab_eq := h.tab_eq
  apart := by
    rintro ⟨before, after, he⟩
    have he : before ++ ['\n', c] ++ after = w.text.toList ++ ['\n'] := by
      rw [he]
      exact String.toList_append
    rcases List.eq_nil_or_concat after with rfl | ⟨after, d, rfl⟩
    · have last := congrArg List.getLast? he
      rw [List.getLast?_concat, List.append_nil, List.getLast?_append] at last
      exact absurd (Option.some.inj last).symm (h.ne (by decide))
    · rw [List.concat_eq_append, ← List.append_assoc] at he
      exact h.apart ⟨before, after, (List.append_inj' he rfl).1⟩
  inside := nofun

theorem Calm.write (h : w.Calm c) (text : String) (plain : '\n' ∉ text.toList)
    (start : w.atLineStart = true → 0 < w.depth ∨ text.toList.head? ≠ some c) :
    (w.write text).Calm c := by
  by_cases he : text = ""
  · simpa [CodeWriter.write, he] using h
  · have hne : text.toList ≠ [] := by simpa using he
    have tabs : w.indentation.toList =
        if w.atLineStart then List.replicate w.depth '\t' else [] := by
      unfold indentation
      split <;> simp [h.tab_eq, String.toList_join, List.flatMap_replicate]
    have added : (w.write text).text.toList =
        w.text.toList ++ (w.indentation.toList ++ text.toList) := by
      simp [CodeWriter.write, he]
    have more : '\n' ∉ w.indentation.toList ++ text.toList := by
      rw [tabs]
      split <;> simp [plain]
    have tab : '\t' ≠ c := h.ne (by decide)
    refine ⟨h.letter, by simpa [CodeWriter.write, he] using h.tab_eq, ?_, fun _ hl => ?_⟩
    · rw [added]
      refine not_infix_append h.apart more fun hl => ?_
      cases ha : w.atLineStart with
      | false => exact absurd hl (h.inside ha)
      | true =>
        rw [tabs, if_pos ha]
        rcases start ha with hd | hf
        · obtain ⟨depth, hd⟩ := Nat.exists_eq_add_of_lt hd
          simp [hd, List.replicate_succ, tab]
        · cases w.depth with
          | zero => simpa using hf
          | succ => simp [List.replicate_succ, tab]
    · rw [added, ← List.append_assoc, List.getLast?_append_of_ne_nil _ hne] at hl
      exact plain (List.mem_of_getLast? hl)

/-- Written from the middle of a line, or from the beginning of an indented one, the pieces leave
off at such a place and begin no line with a letter at the margin. -/
def Settles (atLineStart : Bool) (pieces : List Piece) : Prop :=
  ∀ (w : CodeWriter) (c : Char), w.Calm c → w.atLineStart = atLineStart →
    (atLineStart = true → 0 < w.depth) → (w.putAll pieces).Calm c ∧
      (w.putAll pieces).atLineStart = atLineStart ∧
        (w.putAll pieces).depth = w.depth

theorem putAll_append (w : CodeWriter) (pieces more : List Piece) :
    w.putAll (pieces ++ more) = (w.putAll pieces).putAll more :=
  List.foldl_append

theorem begins_putAll (w : CodeWriter) (pieces : List Piece) :
    w.text.toList <+: (w.putAll pieces).text.toList := by
  induction pieces generalizing w with
  | nil => exact List.prefix_refl _
  | cons piece rest ih =>
    have step : w.text.toList <+: (w.put piece).text.toList := by
      cases piece with
      | text text => exact (continues_write w text).begins
      | newline => exact (continues_newline w).begins
      | indent => exact List.prefix_refl _
      | dedent => exact List.prefix_refl _
    exact step.trans (ih (w.put piece))

variable {start : Bool} {pieces more : List Piece}

theorem Settles.nil : Settles start [] :=
  fun _ _ h hs _ => ⟨h, hs, rfl⟩

theorem Settles.append (h : Settles start pieces) (h' : Settles start more) :
    Settles start (pieces ++ more) := by
  intro w c hw hs hd
  obtain ⟨calm, first, depth⟩ := h w c hw hs hd
  obtain ⟨calm, last, depth'⟩ := h' _ c calm first fun ht => depth ▸ hd ht
  rw [putAll_append]
  exact ⟨calm, last, depth'.trans depth⟩

theorem settles_text {text : String} (plain : '\n' ∉ text.toList) : Settles false [.text text] := by
  intro w c hw hs _
  have calm := hw.write text plain fun ht => by simp [hs] at ht
  refine ⟨calm, ?_, ?_⟩ <;> simp only [putAll, List.foldl, put, write] <;> split <;> simp [hs]

theorem settles_null {target : Target} (ht : target = .go) (optional : Bool) :
    Settles false (target.nullPieces optional) := by
  subst ht
  exact settles_text (by cases optional <;> decide)

theorem settles_scalar {target : Target} (ht : target = .go) (scalar : Scalar) (optional : Bool) :
    Settles false (target.scalarPieces scalar optional) := by
  subst ht
  exact settles_text (by cases scalar <;> cases optional <;> decide)

theorem settles_reference {target : Target} (ht : target = .go) {ident : String}
    (plain : '\n' ∉ ident.toList) (optional : Bool) :
    Settles false (target.referencePieces ident optional) := by
  subst ht
  exact (settles_text (by cases optional <;> decide)).append (settles_text plain)

theorem settles_sequence {target : Target} (ht : target = .go) (h : Settles false pieces) :
    Settles false (target.sequenceStart ++ pieces ++ target.sequenceEnd) := by
  subst ht
  exact ((settles_text (by decide)).append h).append .nil

/-- A member is on lines of its own. -/
theorem settles_field {target : Target} (ht : target = .go) {name : String}
    (plain : '\n' ∉ name.toList) (optional : Bool) (h : Settles false pieces) :
    Settles true (target.fieldStart name optional ++ pieces ++ target.fieldEnd name optional) := by
  subst ht
  intro w c hw hs hd
  have hd := hd rfl
  have named := hw.write _ (newline_not_mem_renderName plain) fun _ => .inl hd
  have depth := write_depth w (renderName name)
  have begun := named.write " " (by decide) fun _ => .inl (depth ▸ hd)
  obtain ⟨typed, middle, same⟩ := h _ c begun rfl nofun
  have ended : '\n' ∉
      (" `json:\"" ++ name ++ (if optional then ",omitempty" else "") ++ "\"`").toList := by
    cases optional <;> simp [plain]
  obtain ⟨done, -, last⟩ := settles_text ended _ c typed middle nofun
  rw [putAll_append, putAll_append]
  refine ⟨done.newline, rfl, ?_⟩
  exact last.trans (same.trans depth)

/-- The members of a record are one step further in. -/
theorem settles_record {target : Target} (ht : target = .go) (optional : Bool)
    (h : Settles true pieces) :
    Settles false (target.recordStart optional ++ pieces ++ target.recordEnd) := by
  subst ht
  intro w c hw hs _
  have header : '\n' ∉ (Target.go.optionalMark optional ++ "struct \x7b").toList := by
    cases optional <;> decide
  obtain ⟨begun, -, depth⟩ := settles_text header w c hw hs nofun
  have inside : (w.putAll [.text (Target.go.optionalMark optional ++ "struct \x7b"), .newline,
      .indent]).Calm c := { begun.newline with }
  obtain ⟨members, middle, same⟩ := h _ c inside rfl fun _ => Nat.succ_pos _
  have out : (CodeWriter.dedent (CodeWriter.putAll _ pieces)).Calm c := { members with }
  have brace : '\x7d' ≠ c := hw.ne (by decide)
  have done := out.write "\x7d" (by decide) fun _ => .inr fun hc => brace (Option.some.inj hc)
  rw [putAll_append, putAll_append]
  refine ⟨done, rfl, ?_⟩
  exact (congrArg (· - 1) same).trans depth

end CodeWriter

namespace EmissionContext

open CodeWriter

variable {context : EmissionContext} {cursor : Cursor} {optional : Bool} {next : Nat}
  {result : Bool × List Statement}

theorem settles_members {required : List String} {properties : List (String × TypeNode)}
    (ht : context.target = .go) (names : ∀ property ∈ properties, '\n' ∉ property.1.toList)
    (each : ∀ property ∈ properties, ∀ cursor optional next result,
      (context.emission cursor optional next property.2.sorted).outcome = .ok result →
        Settles false (context.emission cursor optional next property.2.sorted).declaration)
    (h : (context.memberEmissions cursor required next
      (properties.map fun property => (property.1, property.2.sorted))).outcome = .ok result) :
    Settles true (context.memberEmissions cursor required next
      (properties.map fun property => (property.1, property.2.sorted))).declaration := by
  induction properties generalizing next result with
  | nil => exact .nil
  | cons property rest ih =>
    obtain ⟨name, node⟩ := property
    obtain ⟨plain, names⟩ := List.forall_mem_cons.mp names
    obtain ⟨first, each⟩ := List.forall_mem_cons.mp each
    rw [List.map_cons, memberEmissions] at h ⊢
    obtain ⟨_, _, _, _, hf, hr, -⟩ := Emission.andThen_ok h
    obtain ⟨_, _, he, -⟩ := Emission.within_ok hf
    rw [Emission.andThen_declaration hf, Emission.within_declaration he]
    exact (settles_field ht plain _ (first _ _ _ _ he)).append (ih names each hr)

theorem settles_emission (ht : context.target = .go)
    (idents : ∀ entry ∈ context.table.entries, '\n' ∉ entry.ident.toList) {node : TypeNode}
    (names : ∀ part : TypeNode, part.Within node → ∀ name ∈ part.ownNames, '\n' ∉ name.toList)
    (h : (context.emission cursor optional next node.sorted).outcome = .ok result) :
    Settles false (context.emission cursor optional next node.sorted).declaration := by
  induction node generalizing cursor optional next result with
  | null => exact settles_null ht optional
  | boolean => exact settles_scalar ht .boolean optional
  | integer => exact settles_scalar ht .integer optional
  | number => exact settles_scalar ht .number optional
  | string => exact settles_scalar ht .string optional
  | bareArray additionalItems =>
    cases additionalItems <;> simp [TypeNode.sorted, emission, Emission.failed] at h
  | array items additionalItems constraints ih =>
    simp only [TypeNode.sorted, emission] at h ⊢
    split at h
    next => simp [Emission.failed] at h
    next ha =>
      obtain ⟨_, _, he, -⟩ := Emission.within_ok h
      rw [if_neg ha, Emission.within_declaration he]
      exact settles_sequence ht (ih (fun part hw => names part (.items hw)) he)
  | object properties required ih =>
    simp only [TypeNode.sorted, TypeNode.sortedProperties_eq_map, sortByName_map, emission] at h ⊢
    split at h
    next => simp [Emission.failed] at h
    next hc =>
      obtain ⟨_, _, he, -⟩ := Emission.within_ok h
      rw [Emission.within_declaration he]
      refine settles_record ht optional (settles_members ht (fun property hm => ?_)
        (fun property hm cursor optional next result hp => ?_) he)
      · exact names _ .here _ (List.mem_map_of_mem (mem_sortByName.mp hm))
      · have hm := mem_sortByName.mp hm
        exact ih _ _ hm (fun part hw => names part (.property hm hw)) hp
  | enumeration => simp [TypeNode.sorted, emission, Emission.failed] at h
  | reference pointer =>
    simp only [TypeNode.sorted, emission] at h ⊢
    cases hr : context.table.resolve pointer with
    | error => simp [hr, Emission.failed] at h
    | ok entry =>
      have plain := idents entry (TypeTable.resolve_mem hr)
      dsimp only
      split <;> exact settles_reference ht plain optional

theorem declarationStart_go (ident : String) (node : TypeNode) :
    ∃ last, Target.go.declarationStart ident node = "type " ++ ident ++ (" " ++ last) ∧
      '\n' ∉ last.toList := by
  cases node with
  | reference => exact ⟨"= ", rfl, by decide⟩
  | _ => exact ⟨"", rfl, by decide⟩

/-- The lines of a declaration are indented, but for the first and the end of a record. -/
theorem head?_declaration (ht : context.target = .go)
    (idents : ∀ entry ∈ context.table.entries, '\n' ∉ entry.ident.toList) {entry : TypeEntry}
    (plain : '\n' ∉ entry.ident.toList)
    (names : ∀ part : TypeNode, part.Within entry.node →
      ∀ name ∈ part.ownNames, '\n' ∉ name.toList)
    (h : (context.emit next entry.node).outcome = .ok result) {c : Char}
    (letter : c.isAlpha = true) {line : List Char}
    (hl : line ∈
      (textLines (context.declaration entry (context.emit next entry.node)).toList).tail) :
    line.head? ≠ some c := by
  have written : ¬['\n', c] <:+:
      (context.declaration entry (context.emit next entry.node)).toList := by
    obtain ⟨last, hs, hp⟩ := declarationStart_go entry.ident entry.node
    have begun : (CodeWriter.write { tab := "\t" }
        ("type " ++ entry.ident ++ (" " ++ last))).Calm c :=
      calm_of_not_mem letter (by simp [CodeWriter.write])
        (by simp [CodeWriter.write, indentation, plain, hp])
    have middle : (CodeWriter.write { tab := "\t" }
        ("type " ++ entry.ident ++ (" " ++ last))).atLineStart = false := by
      simp [CodeWriter.write]
    obtain ⟨typed, -, -⟩ := settles_emission ht idents names h _ c begun middle
      fun ha => by cases ha
    rw [declaration, ht, hs]
    exact typed.newline.apart
  exact fun hc => written (infix_of_mem_tail_textLines hl hc)

/-- A declaration begins with the name of its type. -/
theorem begins_declaration (ht : context.target = .go) (entry : TypeEntry) (emission : Emission) :
    ("type " ++ entry.ident ++ " ").toList <+: (context.declaration entry emission).toList := by
  obtain ⟨last, hs, -⟩ := declarationStart_go entry.ident entry.node
  let start := CodeWriter.write { tab := "\t" } (Target.go.declarationStart entry.ident entry.node)
  have begun : ("type " ++ entry.ident ++ " ").toList <+: start.text.toList := by
    simp only [start, hs]
    simp [CodeWriter.write, indentation]
  have typed := begins_putAll start emission.declaration
  have ended := (continues_newline ((start.putAll emission.declaration).write
    Target.go.declarationEnd)).begins
  rw [declaration, ht]
  exact begun.trans (typed.trans ((continues_write _ _).begins.trans ended))

end EmissionContext

end CheckedTypes
