import CheckedTypes.Proofs.FlattenedTable
import CheckedTypes.Proofs.WrittenText

namespace CheckedTypes

/-- A name as it stands in a pointer: tildes are replaced first and slashes after them. -/
def escapeToken (token : List Char) : List Char :=
  (token.flatMap fun c => if c = '~' then ['~', '0'] else [c]).flatMap fun c =>
    if c = '/' then ['~', '1'] else [c]

theorem escapeToken_tilde (rest : List Char) :
    escapeToken ('~' :: rest) = '~' :: '0' :: escapeToken rest := by
  simp [escapeToken]

theorem escapeToken_slash (rest : List Char) :
    escapeToken ('/' :: rest) = '~' :: '1' :: escapeToken rest := by
  simp [escapeToken]

theorem escapeToken_cons {c : Char} (tilde : c ≠ '~') (slash : c ≠ '/') (rest : List Char) :
    escapeToken (c :: rest) = c :: escapeToken rest := by
  simp [escapeToken, tilde, slash]

theorem unescapeToken_cons {c : Char} (tilde : c ≠ '~') (rest : List Char) :
    unescapeToken (c :: rest) = c :: unescapeToken rest := by
  rw [unescapeToken.eq_def]
  split
  next he => exact absurd (List.cons.inj he).1 tilde
  next he => exact absurd (List.cons.inj he).1 tilde
  next he =>
    obtain ⟨rfl, rfl⟩ := List.cons.inj he
    rfl
  next he => cases he

/-- Reading a name back from a pointer gives the name, whatever its characters. -/
theorem unescapeToken_escapeToken (token : List Char) :
    unescapeToken (escapeToken token) = token := by
  induction token with
  | nil => rfl
  | cons c rest ih =>
    by_cases tilde : c = '~'
    · subst tilde
      rw [escapeToken_tilde, unescapeToken, ih]
    · by_cases slash : c = '/'
      · subst slash
        rw [escapeToken_slash, unescapeToken, ih]
      · rw [escapeToken_cons tilde slash, unescapeToken_cons tilde, ih]

theorem slash_not_mem_escapeToken (token : List Char) : '/' ∉ escapeToken token := by
  intro h
  obtain ⟨c, -, hc⟩ := List.mem_flatMap.mp h
  split at hc
  next => simp at hc
  next slash => exact slash (List.mem_singleton.mp hc).symm

/-- Every place where one character follows another is replaced, from left to right. -/
def replacePair (first second replacement : Char) : List Char → List Char
  | c :: d :: rest =>
    if c = first ∧ d = second then replacement :: replacePair first second replacement rest
    else c :: replacePair first second replacement (d :: rest)
  | rest => rest

theorem replacePair_cons {first second replacement c : Char} (h : c ≠ first)
    (rest : List Char) :
    replacePair first second replacement (c :: rest) =
      c :: replacePair first second replacement rest := by
  cases rest with
  | nil => rfl
  | cons d rest => rw [replacePair, if_neg fun both => h both.1]

/-- The first character stays or begins a pair that is replaced. -/
theorem replacePair_head {first second replacement c : Char} (rest : List Char) :
    ∃ d others, (d = c ∨ d = replacement) ∧
      replacePair first second replacement (c :: rest) = d :: others := by
  cases rest with
  | nil => exact ⟨c, [], .inl rfl, rfl⟩
  | cons d rest =>
    rw [replacePair]
    split
    next => exact ⟨_, _, .inr rfl, rfl⟩
    next => exact ⟨_, _, .inl rfl, rfl⟩

/-- Names are read in one pass, which is the same as putting the slashes in first and then the
tildes. -/
theorem unescapeToken_eq_replacePair (token : List Char) :
    unescapeToken token = replacePair '~' '0' '~' (replacePair '~' '1' '/' token) := by
  induction token using unescapeToken.induct with
  | case1 rest ih =>
    rw [unescapeToken, ih, replacePair, if_pos ⟨rfl, rfl⟩, replacePair_cons (by decide)]
  | case2 rest ih =>
    have slashes : replacePair '~' '1' '/' ('~' :: '0' :: rest) =
        '~' :: '0' :: replacePair '~' '1' '/' rest := by
      rw [replacePair, if_neg (by decide), replacePair_cons (by decide)]
    rw [slashes, unescapeToken, ih, replacePair, if_pos ⟨rfl, rfl⟩]
  | case3 c rest slash tilde ih =>
    by_cases hc : c = '~'
    · subst hc
      cases rest with
      | nil => rfl
      | cons d rest =>
        have noSlash : d ≠ '1' := by
          rintro rfl
          exact slash rest rfl rfl
        have noTilde : d ≠ '0' := by
          rintro rfl
          exact tilde rest rfl rfl
        have slashes : replacePair '~' '1' '/' ('~' :: d :: rest) =
            '~' :: replacePair '~' '1' '/' (d :: rest) := by
          rw [replacePair, if_neg fun both => noSlash both.2]
        -- a zero that follows the tilde now would have followed it before
        obtain ⟨e, others, he, hrest⟩ :=
          @replacePair_head '~' '1' '/' d rest
        have noZero : e ≠ '0' := by
          rcases he with rfl | rfl
          · exact noTilde
          · decide
        rw [slashes, unescapeToken, ih, hrest, replacePair, if_neg fun both => noZero both.2]
        · exact slash
        · exact tilde
    · rw [unescapeToken_cons hc, ih, replacePair_cons hc, replacePair_cons hc]
  | case4 => rfl

/-- The sections of a document that definitions stand in. -/
inductive DefinitionSection where
  | definitions
  | defs
deriving DecidableEq

def DefinitionSection.keyword : DefinitionSection → String
  | definitions => "definitions"
  | defs => "$defs"

/-- The pointer to a definition names each definition on the way and the section it stands in. -/
def definitionPointer (steps : List (DefinitionSection × String)) : String :=
  "#" ++ String.join (steps.map fun (container, name) =>
    "/" ++ container.keyword ++ "/" ++ String.ofList (escapeToken name.toList))

def pointerTokens (steps : List (DefinitionSection × String)) : List (List Char) :=
  steps.flatMap fun (container, name) => [container.keyword.toList, escapeToken name.toList]

theorem definitionPointer_toList (steps : List (DefinitionSection × String)) :
    (definitionPointer steps).toList =
      '#' :: (pointerTokens steps).flatMap fun token => '/' :: token := by
  simp [definitionPointer, pointerTokens, String.toList_join, List.flatMap_map, List.flatMap_assoc]

theorem splitOn_append_cons {separator : Char} {part : List Char} (h : separator ∉ part)
    (rest : List Char) :
    splitOn separator (part ++ separator :: rest) = part :: splitOn separator rest := by
  induction part with
  | nil => rw [List.nil_append, splitOn, if_pos rfl]
  | cons c part ih =>
    obtain ⟨hc, hp⟩ := List.ne_and_not_mem_of_not_mem_cons h
    rw [List.cons_append, splitOn, if_neg (Ne.symm hc), ih hp]

theorem splitOn_flatMap {separator : Char} {part : List Char} {parts : List (List Char)}
    (hp : separator ∉ part) (hps : ∀ other ∈ parts, separator ∉ other) :
    splitOn separator (part ++ parts.flatMap fun other => separator :: other) = part :: parts := by
  induction parts generalizing part with
  | nil => rw [List.flatMap_nil, List.append_nil, splitOn_of_not_mem hp]
  | cons other parts ih =>
    rw [List.flatMap_cons, List.cons_append, splitOn_append_cons hp,
      ih (hps other List.mem_cons_self) fun o ho => hps o (List.mem_cons_of_mem _ ho)]

theorem slash_not_mem_pointerTokens {steps : List (DefinitionSection × String)}
    {token : List Char} (h : token ∈ pointerTokens steps) : '/' ∉ token := by
  obtain ⟨⟨container, name⟩, -, ht⟩ := List.mem_flatMap.mp h
  rcases List.mem_pair.mp ht with rfl | rfl
  · cases container <;> decide
  · exact slash_not_mem_escapeToken _

theorem splitOn_definitionPointer (steps : List (DefinitionSection × String)) :
    splitOn '/' (definitionPointer steps).toList = ['#'] :: pointerTokens steps := by
  rw [definitionPointer_toList]
  have start : '/' ∉ ['#'] := by decide
  exact splitOn_flatMap start fun _ => slash_not_mem_pointerTokens

theorem definitionPath?_pointerTokens (steps : List (DefinitionSection × String)) :
    definitionPath? (pointerTokens steps) = some (steps.map Prod.snd) := by
  induction steps with
  | nil => rfl
  | cons step steps ih =>
    obtain ⟨container, name⟩ := step
    have known : ["definitions", "$defs"].contains (String.ofList container.keyword.toList) := by
      cases container <;> decide
    change definitionPath? (container.keyword.toList :: escapeToken name.toList ::
      pointerTokens steps) = _
    rw [definitionPath?, if_pos known, ih, unescapeToken_escapeToken, String.ofList_toList]
    rfl

/-- What a pointer to a definition leads to is the type of that name. -/
theorem TypeTable.resolve_definitionPointer {table : TypeTable}
    {steps : List (DefinitionSection × String)} (inner : steps ≠ []) {entry : TypeEntry} :
    table.resolve (definitionPointer steps) = .ok entry ↔
      table.get? (definitionName (steps.map Prod.snd)) = some entry := by
  have tokens : (pointerTokens steps).isEmpty = false := by
    obtain ⟨step, others, rfl⟩ := List.exists_cons_of_ne_nil inner
    rfl
  rw [resolve, splitOn_definitionPointer]
  simp only [definitionPath?_pointerTokens, tokens, Bool.false_eq_true, if_false,
    Option.bind_some]
  cases table.get? (definitionName (steps.map Prod.snd)) <;> simp

namespace SchemaDocument

/-- A type below the document goes by its path. -/
theorem name_of_toTypeTable {document : SchemaDocument} {root : Option String} {table : TypeTable}
    (h : document.toTypeTable root = .ok table) {entry : TypeEntry} (hm : entry ∈ table.entries)
    (inner : entry.path ≠ []) : entry.name = definitionName entry.path := by
  rcases (mem_of_toTypeTable h).mp hm with
    ⟨-, name, node, -, -, rfl⟩ | ⟨path, definition, node, -, -, rfl⟩
  · exact absurd rfl inner
  · rfl

/-- Every definition of a document can be referred to: a pointer along its path, with either
section at each step and the names escaped, leads to it. -/
theorem definition_referable {document : SchemaDocument} {root : Option String}
    {table : TypeTable} (h : document.toTypeTable root = .ok table) {entry : TypeEntry}
    (hm : entry ∈ table.entries) (inner : entry.path ≠ [])
    {steps : List (DefinitionSection × String)} (along : steps.map Prod.snd = entry.path) :
    table.resolve (definitionPointer steps) = .ok entry := by
  have some_step : steps ≠ [] := by
    rintro rfl
    exact inner along.symm
  rw [TypeTable.resolve_definitionPointer some_step, along, ← name_of_toTypeTable h hm inner,
    TypeTable.get?_eq_some_iff]
  exact ⟨hm, rfl⟩

/-- A document with names that hold slashes and tildes, an empty one and one that looks like an
escape. -/
def mazeDocument : SchemaDocument where
  definitions := some [
    ("a/b~", {
      typeNames := some (.one "integer")
      defs := some [("~01", { typeNames := some (.one "boolean") })] })]
  defs := some [
    ("", {
      typeNames := some (.one "null")
      definitions := some [("~1", { typeNames := some (.one "string") })] })]

def mazeTable : TypeTable where
  entries := [
    ⟨"a/b~", ["a/b~"], .integer ⟨none, none, none⟩, "A/b~"⟩,
    ⟨"a/b~/~01", ["a/b~", "~01"], .boolean, "A/b~~01"⟩,
    ⟨"", [""], .null, ""⟩,
    ⟨"/~1", ["", "~1"], .string {}, "~1"⟩]
  nodup_name := by decide
  nodup_ident := by decide

theorem definition_referable_maze : mazeDocument.toTypeTable none = .ok mazeTable ∧
    mazeTable.resolve "#/definitions/a~1b~0/$defs/~001" =
      .ok ⟨"a/b~/~01", ["a/b~", "~01"], .boolean, "A/b~~01"⟩ ∧
    mazeTable.resolve "#/$defs//definitions/~01" =
      .ok ⟨"/~1", ["", "~1"], .string {}, "~1"⟩ := by
  have flat : mazeDocument.toTypeTable none = .ok mazeTable := by cbv
  have first : definitionPointer [(.definitions, "a/b~"), (.defs, "~01")] =
      "#/definitions/a~1b~0/$defs/~001" := by decide
  have second : definitionPointer [(.defs, ""), (.definitions, "~1")] =
      "#/$defs//definitions/~01" := by decide
  refine ⟨flat, first ▸ ?_, second ▸ ?_⟩
  · exact definition_referable flat (by simp [mazeTable]) (by simp) rfl
  · exact definition_referable flat (by simp [mazeTable]) (by simp) rfl

end SchemaDocument

end CheckedTypes
