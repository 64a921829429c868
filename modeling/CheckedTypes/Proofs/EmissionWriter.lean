import CheckedTypes.Proofs.SharedChecks

namespace CheckedTypes

/-- What is under construction while types are emitted: the declaration and the validator of the
type at hand, and the patterns of all types with the number of the next. -/
structure Drafts where
  declaration : CodeWriter
  validation : CodeWriter
  globals : CodeWriter
  next : Nat

namespace Drafts

def declare (drafts : Drafts) (pieces : List Piece) : Drafts :=
  { drafts with declaration := drafts.declaration.putAll pieces }

def check (drafts : Drafts) (target : Target) (statement : Statement) : Drafts :=
  { drafts with validation := drafts.validation.statement target statement }

/-- Goes on with another writer for the checks. -/
def withChecks (drafts : Drafts) (validation : CodeWriter) : Drafts :=
  { drafts with validation }

def addPattern (drafts : Drafts) (target : Target) (pattern : String) : Drafts :=
  { drafts with
    globals := drafts.globals.line
      (target.patternDeclaration (patternVariable drafts.next) pattern)
    next := drafts.next + 1 }

end Drafts

namespace CodeWriter

/-- Puts checks in place that are only made if the value is there. -/
def guardPresent (w : CodeWriter) (target : Target) (cursor : Cursor) (body : CodeWriter) :
    CodeWriter :=
  if body.isEmpty then w
  else w.block (target.ifHeader (target.presentText (target.expression cursor))) body.text

/-- The checks of an array that is there, those of its elements in a loop. -/
def arrayBody (target : Target) (cursor : Cursor) (constraints : ArrayConstraints)
    (elements : CodeWriter) : CodeWriter :=
  let body : CodeWriter := { tab := target.tab }
  let body := if constraints.isEmpty then body
    else body.statement target (.failUnless (.array constraints cursor) .array cursor)
  if elements.isEmpty then body
  else body.block (target.loopHeader (target.expression cursor) cursor.loopVar) elements.text

def putArray (w : CodeWriter) (target : Target) (cursor : Cursor) (optional : Bool)
    (body : CodeWriter) : CodeWriter :=
  if optional then w.guardPresent target cursor body
  else (w.statement target (.failUnless (.present cursor) .arrayPresent cursor)).embed body.text

/-- Writes the declarations of patterns that are numbered from `next` on. -/
def putPatterns (w : CodeWriter) (target : Target) (next : Nat) : List String → CodeWriter
  | [] => w
  | pattern :: rest =>
    (w.line (target.patternDeclaration (patternVariable next) pattern)).putPatterns target
      (next + 1) rest

def probes (target : Target) (cursor : Cursor) (required : List String) : CodeWriter :=
  required.foldl (fun (w : CodeWriter) name =>
    w.statement target (.failUnless (.member cursor name) .memberRequired (cursor.field name)))
    { tab := target.tab }

def putObject (w : CodeWriter) (target : Target) (cursor : Cursor) (optional : Bool)
    (body : CodeWriter) : CodeWriter :=
  if optional then w.guardPresent target cursor body else w.embed body.text

end CodeWriter

namespace EmissionContext

mutual
/-- Writes what a type with sorted properties adds, step by step. The checks of elements and of
members are collected in a writer of their own. -/
def writeType (context : EmissionContext) (cursor : Cursor) (optional : Bool) :
    TypeNode → Drafts → Except GenerateError Bool × Drafts
  | .null, drafts => (.ok true, drafts.declare (context.target.nullPieces optional))
  | .boolean, drafts => (.ok true, drafts.declare (context.target.scalarPieces .boolean optional))
  | .integer constraints, drafts =>
    let drafts := drafts.declare (context.target.scalarPieces .integer optional)
    if constraints.isEmpty then (.ok true, drafts)
    else (.ok false, drafts.check context.target
      (.failUnless (.integer constraints cursor optional) .integer cursor))
  | .number constraints, drafts =>
    let drafts := drafts.declare (context.target.scalarPieces .number optional)
    if constraints.isEmpty then (.ok true, drafts)
    else (.ok false, drafts.check context.target
      (.failUnless (.number constraints cursor optional) .number cursor))
  | .string constraints, drafts =>
    let drafts := drafts.declare (context.target.scalarPieces .string optional)
    let drafts := if constraints.hasLength then
        drafts.check context.target
          (.failUnless (.length constraints cursor optional) .stringLength cursor)
      else drafts
    match constraints.pattern with
    | none => (.ok !constraints.hasLength, drafts)
    | some pattern => (.ok false, (drafts.addPattern context.target pattern).check context.target
        (.failUnless (.pattern drafts.next cursor optional) .stringPattern cursor))
  | .array items additionalItems constraints, drafts =>
    if additionalItems then
      (.error (.unsupportedShape (context.location cursor)
        "additional items are not supported, only single type arrays"), drafts)
    else
      match items with
      | none =>
        (.error (.schemaShape (context.location cursor) "array must have item type"), drafts)
      | some items =>
        let opened := drafts.declare context.target.sequenceStart
        match context.writeType cursor.element false items
          (opened.withChecks { tab := context.target.tab }) with
        | (.error fault, inner) => (.error fault, inner.withChecks drafts.validation)
        | (.ok ignorable, inner) =>
          let body := .arrayBody context.target cursor constraints inner.validation
          (.ok (ignorable && constraints.isEmpty),
            (inner.declare context.target.sequenceEnd).withChecks
              (drafts.validation.putArray context.target cursor optional body))
  | .object properties required, drafts =>
    match collision? [] (properties.map Prod.fst) with
    | some (first, second) => (.error (context.collisionError cursor first second), drafts)
    | none =>
      let required := required.getD []
      let opened := drafts.declare (context.target.recordStart optional)
      match context.writeMembers cursor required properties
        (opened.withChecks (.probes context.target cursor required)) with
      | (.error fault, inner) => (.error fault, inner.withChecks drafts.validation)
      | (.ok ignorable, inner) =>
        (.ok (ignorable && required.isEmpty),
          (inner.declare context.target.recordEnd).withChecks
            (drafts.validation.putObject context.target cursor optional inner.validation))
  | .enumeration _, drafts =>
    (.error (.unsupportedShape (context.location cursor)
      "inline enum is not supported, move it to a definition and $ref it"), drafts)
  | .reference pointer, drafts =>
    match context.table.resolve pointer with
    | .error fault => (.error fault, drafts)
    | .ok entry =>
      let drafts := drafts.declare (context.target.referencePieces entry.ident optional)
      if context.target.dispatches && context.validated.contains entry.ident then
        (.ok false, drafts.check context.target (.dispatch entry.ident cursor))
      else (.ok true, drafts)
def writeMembers (context : EmissionContext) (cursor : Cursor) (required : List String) :
    List (String × TypeNode) → Drafts → Except GenerateError Bool × Drafts
  | [], drafts => (.ok true, drafts)
  | (name, node) :: rest, drafts =>
    let optional := !required.contains name
    match context.writeType (cursor.field name) optional node
      (drafts.declare (context.target.fieldStart name optional)) with
    | (.error fault, drafts) => (.error fault, drafts)
    | (.ok ignorable, drafts) =>
      match context.writeMembers cursor required rest
        (drafts.declare (context.target.fieldEnd name optional)) with
      | (.error fault, drafts) => (.error fault, drafts)
      | (.ok others, drafts) => (.ok (ignorable && others), drafts)
end

end EmissionContext

theorem textLines_ne_nil {text : List Char} (h : text ≠ []) : textLines text ≠ [] := by
  fun_cases textLines text <;> simp_all

namespace CodeWriter

variable {target : Target} {w : CodeWriter} {checks : List Statement} {cursor : Cursor}

theorem statements_append (w : CodeWriter) (checks more : List Statement) :
    w.statements target (checks ++ more) = (w.statements target checks).statements target more := by
  induction checks generalizing w with
  | nil => rfl
  | cons statement rest ih => exact ih (w.statement target statement)

theorem statements_unlessEmpty (w : CodeWriter) (constrained : Bool) (statement : Statement) :
    w.statements target (EmissionContext.unlessEmpty constrained statement) =
      if constrained then w.statement target statement else w := by
  cases constrained <;> rfl

theorem putPatterns_append (w : CodeWriter) (next : Nat) (patterns more : List String) :
    w.putPatterns target next (patterns ++ more) =
      (w.putPatterns target next patterns).putPatterns target (next + patterns.length) more := by
  induction patterns generalizing w next with
  | nil => rfl
  | cons pattern rest ih =>
    rw [List.cons_append, putPatterns, putPatterns, ih, List.length_cons, Nat.add_assoc,
      Nat.add_comm 1]

theorem length_lt_line (w : CodeWriter) (text : String) :
    w.text.length < (w.line text).text.length := by
  have written := (continues_write w text).begins.length_le
  simp only [String.length_toList] at written
  simp only [line, newline, String.length_append]
  exact Nat.lt_succ_of_le written

theorem Continues.length_le {after : CodeWriter} (h : w.Continues after) :
    w.text.length ≤ after.text.length := by
  simpa only [String.length_toList] using h.begins.length_le

theorem length_lt_openBlock (w : CodeWriter) (header : String) :
    w.text.length < (w.openBlock header).text.length :=
  length_lt_line w header

theorem length_lt_closeBlock (w : CodeWriter) (footer : String) :
    w.text.length < (w.closeBlock footer).text.length :=
  length_lt_line w.dedent footer

theorem length_lt_block (w : CodeWriter) (header body : String) :
    w.text.length < (w.block header body).text.length := by
  have inside := (continues_embed (w.openBlock header) body).length_le
  exact ((length_lt_openBlock w header).trans_le inside).trans (length_lt_closeBlock _ _)

/-- Embedding a text that is not empty adds to what is there. -/
theorem length_lt_embed (w : CodeWriter) {text : String} (h : text ≠ "") :
    w.text.length < (w.embed text).text.length := by
  unfold embed
  cases hl : textLines text.toList with
  | nil => exact absurd hl (textLines_ne_nil (by simpa using h))
  | cons first rest =>
    exact (length_lt_line w _).trans_le (continues_lines _ String.ofList rest).length_le

end CodeWriter

/-- Writing the statement adds to the text. -/
def Statement.Grows (target : Target) (statement : Statement) : Prop :=
  ∀ w : CodeWriter, w.text.length < (w.statement target statement).text.length

namespace Statement

variable {target : Target} {checks : List Statement}

theorem length_le_statements (h : ∀ statement ∈ checks, statement.Grows target) (w : CodeWriter) :
    w.text.length ≤ (w.statements target checks).text.length := by
  induction checks generalizing w with
  | nil => exact Nat.le_refl _
  | cons statement rest ih =>
    obtain ⟨first, others⟩ := List.forall_mem_cons.mp h
    exact (first w).le.trans (ih others _)

theorem length_lt_statements (h : ∀ statement ∈ checks, statement.Grows target)
    (hne : checks ≠ []) (w : CodeWriter) :
    w.text.length < (w.statements target checks).text.length := by
  cases checks with
  | nil => exact absurd rfl hne
  | cons statement rest =>
    obtain ⟨first, others⟩ := List.forall_mem_cons.mp h
    exact (first w).trans_le (length_le_statements others _)

/-- What is written into an empty text is empty only where there is nothing to write. -/
theorem isEmpty_statements (h : ∀ statement ∈ checks, statement.Grows target) :
    (CodeWriter.statements { tab := target.tab } target checks).isEmpty = checks.isEmpty := by
  by_cases hne : checks = []
  · subst hne
    rfl
  · have longer := length_lt_statements h hne { tab := target.tab }
    have shown : (CodeWriter.statements { tab := target.tab } target checks).text ≠ "" := by
      intro empty
      rw [empty] at longer
      exact Nat.not_lt_zero _ longer
    rw [List.isEmpty_eq_false_iff.mpr hne, CodeWriter.isEmpty, String.isEmpty_eq_false_iff]
    exact shown

theorem grows_failUnless (predicate : Predicate) (reason : Reason) (cursor : Cursor) :
    (failUnless predicate reason cursor).Grows target := by
  intro w
  rw [CodeWriter.statement]
  generalize target.ifHeader (negate (predicate.text target)) = header
  generalize target.failureText reason.text cursor = failure
  have test := CodeWriter.length_lt_openBlock w header
  have inside := (CodeWriter.continues_line (w.openBlock header) failure).length_le
  exact (test.trans_le inside).trans (CodeWriter.length_lt_closeBlock _ _)

theorem grows_splice {body : List Statement} (hne : body ≠ [])
    (h : ∀ statement ∈ body, statement.Grows target) : (splice body).Grows target := by
  intro w
  have longer := length_lt_statements h hne { tab := target.tab }
  refine CodeWriter.length_lt_embed w fun empty => ?_
  rw [empty] at longer
  exact Nat.not_lt_zero _ longer

end Statement

namespace EmissionContext

variable {context : EmissionContext} {cursor : Cursor} {optional ignorable : Bool} {next : Nat}
  {checks : List Statement}

theorem kept_grows (context : EmissionContext) (target : Target) :
    context.Kept (fun _ => True) (Statement.Grows target) where
  failUnless := fun predicate reason cursor _ _ =>
    Statement.grows_failUnless predicate reason cursor
  dispatch := fun _ _ _ _ w => CodeWriter.length_lt_line w _
  guarded := fun _ _ _ _ _ w => CodeWriter.length_lt_block w _ _
  loop := fun _ _ _ _ _ w => CodeWriter.length_lt_block w _ _
  splice := fun _ hne inside => Statement.grows_splice hne inside

theorem grows_members {required : List String} {properties : List (String × TypeNode)}
    (each : ∀ name node, (name, node) ∈ properties → ∀ cursor optional next ignorable checks,
      (context.emission cursor optional next node).outcome = .ok (ignorable, checks) →
        ∀ statement ∈ checks, statement.Grows context.target)
    (h : (context.memberEmissions cursor required next properties).outcome =
      .ok (ignorable, checks)) : ∀ statement ∈ checks, statement.Grows context.target := by
  induction properties generalizing next ignorable checks with
  | nil =>
    obtain ⟨-, rfl⟩ := Prod.mk.inj (Except.ok.inj h)
    exact fun _ hm => absurd hm List.not_mem_nil
  | cons property rest ih =>
    obtain ⟨name, node⟩ := property
    rw [memberEmissions] at h
    obtain ⟨_, _, first, more, hf, hr, -, rfl, -⟩ := Emission.andThen_ok h
    obtain ⟨_, _, ho, same⟩ := Emission.within_ok hf
    obtain ⟨-, rfl⟩ := Prod.mk.inj same
    refine List.forall_mem_append.mpr ⟨each _ _ List.mem_cons_self _ _ _ _ _ ho, ?_⟩
    exact ih (fun name node hm => each name node (List.mem_cons_of_mem _ hm)) hr

theorem grows_emission {node : TypeNode}
    (h : (context.emission cursor optional next node).outcome = .ok (ignorable, checks)) :
    ∀ statement ∈ checks, statement.Grows context.target := by
  have kept := kept_grows context context.target
  induction node generalizing cursor optional next ignorable checks with
  | null | boolean =>
    obtain ⟨-, rfl⟩ := Prod.mk.inj (Except.ok.inj h)
    exact fun _ hm => absurd hm List.not_mem_nil
  | integer | number =>
    obtain ⟨-, rfl⟩ := Prod.mk.inj (Except.ok.inj h)
    exact kept.unlessEmpty trivial rfl _ _
  | string =>
    obtain ⟨-, rfl⟩ := Prod.mk.inj (Except.ok.inj h)
    exact List.forall_mem_append.mpr
      ⟨kept.unlessEmpty trivial rfl _ _, kept.unlessEmpty trivial rfl _ _⟩
  | bareArray =>
    rw [emission] at h
    split at h <;> cases h
  | array items additionalItems constraints ih =>
    rw [emission] at h
    split at h
    next => cases h
    next =>
      obtain ⟨_, elements, ho, same⟩ := Emission.within_ok h
      obtain ⟨-, rfl⟩ := Prod.mk.inj same
      exact kept.arrayChecks trivial (ih ho) optional constraints
  | object properties required ih =>
    rw [emission] at h
    split at h
    next => cases h
    next =>
      obtain ⟨_, members, ho, same⟩ := Emission.within_ok h
      obtain ⟨-, rfl⟩ := Prod.mk.inj same
      have inside := grows_members (fun name node hm _ _ _ _ _ => ih name node hm) ho
      exact kept.objectChecks trivial (fun _ _ => trivial) inside optional
  | enumeration => cases h
  | reference pointer =>
    rw [emission] at h
    split at h
    next => cases h
    next entry _ =>
      dsimp only at h
      split at h
      next calls =>
        obtain ⟨-, rfl⟩ := Prod.mk.inj (Except.ok.inj h)
        have dispatches := (Bool.and_eq_true_iff.mp calls).1
        exact List.forall_mem_singleton.mpr (kept.dispatch dispatches entry.ident cursor trivial)
      next =>
        obtain ⟨-, rfl⟩ := Prod.mk.inj (Except.ok.inj h)
        exact fun _ hm => absurd hm List.not_mem_nil

end EmissionContext

namespace CodeWriter

variable {target : Target} {elements : List Statement}

theorem guardPresent_statements (w : CodeWriter) (cursor : Cursor)
    (h : ∀ statement ∈ elements, statement.Grows target) :
    w.guardPresent target cursor (CodeWriter.statements { tab := target.tab } target elements) =
      w.statements target
        (EmissionContext.unlessEmpty (!elements.isEmpty) (.guarded cursor elements)) := by
  rw [guardPresent, Statement.isEmpty_statements h, statements_unlessEmpty]
  cases elements.isEmpty <;> rfl

theorem embed_statements (w : CodeWriter) (elements : List Statement) :
    w.embed (CodeWriter.statements { tab := target.tab } target elements).text =
      w.statements target
        (EmissionContext.unlessEmpty (!elements.isEmpty) (.splice elements)) := by
  rw [statements_unlessEmpty]
  cases elements <;> rfl

theorem arrayBody_statements (cursor : Cursor) (constraints : ArrayConstraints)
    (h : ∀ statement ∈ elements, statement.Grows target) :
    arrayBody target cursor constraints
        (CodeWriter.statements { tab := target.tab } target elements) =
      CodeWriter.statements { tab := target.tab } target
        (EmissionContext.unlessEmpty (!constraints.isEmpty)
            (.failUnless (.array constraints cursor) .array cursor) ++
          EmissionContext.unlessEmpty (!elements.isEmpty) (.loop cursor elements)) := by
  rw [statements_append, statements_unlessEmpty, statements_unlessEmpty, arrayBody,
    Statement.isEmpty_statements h]
  cases constraints.isEmpty <;> cases elements.isEmpty <;> rfl

/-- The checks of an array, collected in a writer, are those that are listed. -/
theorem putArray_statements (w : CodeWriter) (cursor : Cursor) (optional : Bool)
    (constraints : ArrayConstraints) (h : ∀ statement ∈ elements, statement.Grows target) :
    w.putArray target cursor optional (.arrayBody target cursor constraints
        (CodeWriter.statements { tab := target.tab } target elements)) =
      w.statements target (EmissionContext.arrayChecks cursor optional constraints elements) := by
  have body : ∀ statement ∈ EmissionContext.unlessEmpty (!constraints.isEmpty)
        (.failUnless (.array constraints cursor) .array cursor) ++
      EmissionContext.unlessEmpty (!elements.isEmpty) (.loop cursor elements),
      statement.Grows target := by
    refine List.forall_mem_append.mpr ⟨fun statement hm => ?_, fun statement hm => ?_⟩
    · rw [(EmissionContext.mem_unlessEmpty.mp hm).2]
      exact Statement.grows_failUnless _ _ _
    · rw [(EmissionContext.mem_unlessEmpty.mp hm).2]
      exact fun w => length_lt_block w _ _
  rw [arrayBody_statements cursor constraints h]
  cases optional with
  | true => exact guardPresent_statements w cursor body
  | false => exact embed_statements _ _

theorem probes_statements (cursor : Cursor) (required : List String) :
    probes target cursor required = CodeWriter.statements { tab := target.tab } target
      (required.map fun name =>
        .failUnless (.member cursor name) .memberRequired (cursor.field name)) := by
  unfold probes
  generalize ({ tab := target.tab } : CodeWriter) = w
  induction required generalizing w with
  | nil => rfl
  | cons name rest ih => exact ih _

theorem putObject_statements (w : CodeWriter) (cursor : Cursor) (optional : Bool)
    (required : List String) (h : ∀ statement ∈ elements, statement.Grows target) :
    w.putObject target cursor optional
        ((probes target cursor required).statements target elements) =
      w.statements target (EmissionContext.objectChecks cursor optional required elements) := by
  have body : ∀ statement ∈ (required.map fun name =>
      Statement.failUnless (.member cursor name) .memberRequired (cursor.field name)) ++ elements,
      statement.Grows target := by
    refine List.forall_mem_append.mpr ⟨fun statement hm => ?_, h⟩
    obtain ⟨name, -, rfl⟩ := List.mem_map.mp hm
    exact Statement.grows_failUnless _ _ _
  rw [probes_statements, ← statements_append]
  cases optional with
  | true => exact guardPresent_statements w cursor body
  | false => exact embed_statements _ _

end CodeWriter

namespace Emission

variable {first second emission : Emission} {fault : GenerateError}

theorem within_outcome_of_error {before after : List Piece}
    {finish : Bool → List Statement → Bool × List Statement}
    (h : emission.outcome = .error fault) :
    (emission.within before after finish).outcome = .error fault := by
  simp only [within, h]

theorem andThen_of_error (h : first.outcome = .error fault) : first.andThen second = first := by
  simp only [andThen, h]

theorem andThen_outcome_of_error {result : Bool × List Statement} (h : first.outcome = .ok result)
    (h' : second.outcome = .error fault) : (first.andThen second).outcome = .error fault := by
  simp only [andThen, h, h', Except.map]

end Emission

namespace Drafts

/-- What a type adds is added, with these checks. -/
def add (drafts : Drafts) (target : Target) (emission : Emission) (checks : List Statement) :
    Drafts where
  declaration := drafts.declaration.putAll emission.declaration
  validation := drafts.validation.statements target checks
  globals := drafts.globals.putPatterns target drafts.next emission.patterns
  next := drafts.next + emission.patterns.length

/-- Where a type cannot be generated, no checks are added. -/
def emitted (drafts : Drafts) (target : Target) (emission : Emission) :
    Except GenerateError Bool × Drafts :=
  match emission.outcome with
  | .ok (ignorable, checks) => (.ok ignorable, drafts.add target emission checks)
  | .error fault => (.error fault, drafts.add target emission [])

variable {drafts : Drafts} {target : Target} {emission first second : Emission}
  {collected : CodeWriter} {checks more : List Statement} {before after : List Piece}
  {finish : Bool → List Statement → Bool × List Statement} {result : Bool × List Statement}
  {fault : GenerateError}

theorem emitted_of_ok {ignorable : Bool} (h : emission.outcome = .ok (ignorable, checks)) :
    drafts.emitted target emission = (.ok ignorable, drafts.add target emission checks) := by
  rw [emitted, h]

theorem emitted_of_error (h : emission.outcome = .error fault) :
    drafts.emitted target emission = (.error fault, drafts.add target emission []) := by
  rw [emitted, h]

theorem add_within (finish : Bool → List Statement → Bool × List Statement)
    (h : emission.outcome = .ok result) :
    ((drafts.declare before).add target emission checks).declare after =
      drafts.add target (emission.within before after finish) checks := by
  simp only [add, declare, Emission.within_declaration h, Emission.within_patterns,
    CodeWriter.putAll_append]

theorem emitted_within (h : emission.outcome = .ok result) :
    drafts.emitted target (emission.within before after finish) =
      (.ok (finish result.1 result.2).1,
        ((drafts.declare before).add target emission (finish result.1 result.2).2).declare
          after) := by
  rw [emitted, Emission.within_outcome h, add_within finish h]

theorem add_within_of_error (finish : Bool → List Statement → Bool × List Statement)
    (h : emission.outcome = .error fault) :
    (drafts.declare before).add target emission checks =
      drafts.add target (emission.within before after finish) checks := by
  simp only [add, declare, Emission.within, h, CodeWriter.putAll_append]

theorem emitted_within_of_error (h : emission.outcome = .error fault) :
    drafts.emitted target (emission.within before after finish) =
      (.error fault, (drafts.declare before).add target emission []) := by
  rw [emitted, Emission.within_outcome_of_error h, add_within_of_error finish h]

theorem add_andThen (h : first.outcome = .ok result) :
    (drafts.add target first checks).add target second more =
      drafts.add target (first.andThen second) (checks ++ more) := by
  simp only [add, Emission.andThen, h, CodeWriter.putAll_append, CodeWriter.statements_append,
    CodeWriter.putPatterns_append, List.length_append, Nat.add_assoc]

/-- Where checks that have been collected are replaced, it does not matter which they were. -/
theorem add_andThen_withChecks (h : first.outcome = .ok result) :
    ((drafts.add target first checks).add target second []).withChecks collected =
      (drafts.add target (first.andThen second) []).withChecks collected := by
  rw [add_andThen h]
  rfl

/-- Members are written as an emission says, but an error leaves behind whatever checks have been
collected by then. -/
def WrittenAs (drafts : Drafts) (target : Target) (emission : Emission)
    (written : Except GenerateError Bool × Drafts) : Prop :=
  match emission.outcome with
  | .ok (ignorable, checks) => written = (.ok ignorable, drafts.add target emission checks)
  | .error fault => ∃ collected,
      written = (.error fault, (drafts.add target emission []).withChecks collected)

variable {written : Except GenerateError Bool × Drafts} {ignorable : Bool}

theorem writtenAs_of_ok (h : emission.outcome = .ok (ignorable, checks)) :
    drafts.WrittenAs target emission written ↔
      written = (.ok ignorable, drafts.add target emission checks) := by
  rw [WrittenAs, h]

theorem writtenAs_of_error (h : emission.outcome = .error fault) :
    drafts.WrittenAs target emission written ↔ ∃ collected,
      written = (.error fault, (drafts.add target emission []).withChecks collected) := by
  rw [WrittenAs, h]

theorem WrittenAs.andThen
    (rest : (drafts.add target first checks).WrittenAs target second written)
    (h : first.outcome = .ok (ignorable, checks)) :
    drafts.WrittenAs target (first.andThen second)
      (written.1.map (ignorable && ·), written.2) := by
  cases hs : second.outcome with
  | error fault =>
    -- What has been declared for the first members stays, their checks do not.
    obtain ⟨collected, rfl⟩ := (writtenAs_of_error hs).mp rest
    have failed := Emission.andThen_outcome_of_error h hs
    exact (writtenAs_of_error failed).mpr
      ⟨collected, congrArg (Prod.mk _) (add_andThen_withChecks h)⟩
  | ok result =>
    obtain ⟨others, more⟩ := result
    rw [(writtenAs_of_ok hs).mp rest]
    exact (writtenAs_of_ok (Emission.andThen_outcome h hs)).mpr
      (congrArg (Prod.mk _) (add_andThen h))

end Drafts

namespace EmissionContext

variable {context : EmissionContext} {cursor : Cursor} {optional ignorable : Bool} {next : Nat}
  {checks : List Statement} {drafts : Drafts}

/-- Members are written one after the other. -/
theorem writtenAs_writeMembers {required : List String} {properties : List (String × TypeNode)}
    (each : ∀ name node, (name, node) ∈ properties → ∀ cursor optional drafts,
      context.writeType cursor optional node drafts =
        drafts.emitted context.target (context.emission cursor optional drafts.next node)) :
    drafts.WrittenAs context.target
      (context.memberEmissions cursor required drafts.next properties)
      (context.writeMembers cursor required properties drafts) := by
  induction properties generalizing drafts with
  | nil => rfl
  | cons property rest ih =>
    obtain ⟨name, node⟩ := property
    have here := each name node List.mem_cons_self (cursor.field name) (!required.contains name)
      (drafts.declare (context.target.fieldStart name !required.contains name))
    change _ = Drafts.emitted _ _ (context.emission _ _ drafts.next node) at here
    rw [memberEmissions, writeMembers, here]
    generalize context.emission _ _ drafts.next node = emission
    cases ho : emission.outcome with
    | error fault =>
      rw [Drafts.emitted_of_error ho, Drafts.add_within_of_error Prod.mk ho,
        Emission.andThen_of_error (Emission.within_outcome_of_error ho)]
      exact (Drafts.writtenAs_of_error (Emission.within_outcome_of_error ho)).mpr
        ⟨drafts.validation, rfl⟩
    | ok result =>
      obtain ⟨ignorable, checks⟩ := result
      rw [Drafts.emitted_of_ok ho]
      dsimp only
      rw [Drafts.add_within Prod.mk ho]
      have first : (emission.within (context.target.fieldStart name !required.contains name)
          (context.target.fieldEnd name !required.contains name) Prod.mk).outcome =
            .ok (ignorable, checks) := Emission.within_outcome ho
      generalize emission.within _ _ _ = whole at first
      have others := @ih (drafts.add context.target whole checks) fun name node hm =>
        each name node (List.mem_cons_of_mem _ hm)
      have written := others.andThen first
      generalize context.writeMembers cursor required rest _ = result at written ⊢
      obtain ⟨_ | _, _⟩ := result <;> exact written

/-- Writing a type step by step comes to the same as listing first what it adds. -/
theorem writeType_eq (context : EmissionContext) (node : TypeNode) (cursor : Cursor)
    (optional : Bool) (drafts : Drafts) :
    context.writeType cursor optional node drafts =
      drafts.emitted context.target (context.emission cursor optional drafts.next node) := by
  induction node generalizing cursor optional drafts with
  | null | boolean =>
    rw [writeType, emission]
    rfl
  | integer constraints | number constraints =>
    rw [writeType, emission]
    cases constraints.isEmpty <;> rfl
  | string constraints =>
    rw [writeType, emission, stringEmission]
    cases hl : constraints.hasLength <;> cases hp : constraints.pattern <;>
      simp [Drafts.emitted, StringConstraints.isEmpty, hl, hp] <;> rfl
  | bareArray additionalItems constraints =>
    rw [writeType, emission]
    cases additionalItems <;> rfl
  | array items additionalItems constraints ih =>
    rw [writeType, emission]
    split
    next => rfl
    next =>
      -- The elements are checked in an empty writer, but the patterns are numbered on.
      have inner := ih cursor.element false
        ((drafts.declare context.target.sequenceStart).withChecks { tab := context.target.tab })
      change _ = Drafts.emitted _ _ (context.emission _ false drafts.next items) at inner
      dsimp only
      rw [inner]
      cases ho : (context.emission cursor.element false drafts.next items).outcome with
      | error fault =>
        rw [Drafts.emitted_of_error ho, Drafts.emitted_within_of_error ho]
        rfl
      | ok result =>
        obtain ⟨ignorable, elements⟩ := result
        have body := CodeWriter.putArray_statements drafts.validation cursor optional constraints
          (grows_emission ho)
        rw [Drafts.emitted_of_ok ho, Drafts.emitted_within ho]
        exact congrArg (fun validation => (_, Drafts.withChecks _ validation)) body
  | object properties required ih =>
    rw [writeType, emission]
    cases hc : collision? [] (properties.map Prod.fst) with
    | some pair => rfl
    | none =>
      dsimp only
      generalize required.getD [] = required
      have members := @writtenAs_writeMembers context cursor
        ((drafts.declare (context.target.recordStart optional)).withChecks
          (.probes context.target cursor required)) required properties ih
      cases ho : (context.memberEmissions cursor required drafts.next properties).outcome with
      | error fault =>
        obtain ⟨collected, failed⟩ := (Drafts.writtenAs_of_error ho).mp members
        rw [failed, Drafts.emitted_within_of_error ho]
        rfl
      | ok result =>
        obtain ⟨ignorable, checks⟩ := result
        have body := CodeWriter.putObject_statements drafts.validation cursor optional required
          (grows_members (fun _ _ _ _ _ _ _ _ => grows_emission) ho)
        rw [(Drafts.writtenAs_of_ok ho).mp members, Drafts.emitted_within ho]
        exact congrArg (fun validation => (_, Drafts.withChecks _ validation)) body
  | enumeration values => rfl
  | reference pointer =>
    rw [writeType, emission]
    cases hr : context.table.resolve pointer with
    | error fault => rfl
    | ok entry =>
      dsimp only
      split <;> rfl

end EmissionContext

end CheckedTypes
