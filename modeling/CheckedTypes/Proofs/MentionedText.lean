import CheckedTypes.Proofs.ValidatorRows

namespace CheckedTypes

/-- The word stands somewhere in the text. -/
def Mentions (text word : String) : Prop :=
  word.toList <:+: text.toList

variable {text word : String}

theorem Mentions.append_left (before : String) (h : Mentions text word) :
    Mentions (before ++ text) word := by
  rw [Mentions, String.toList_append]
  exact h.trans (List.suffix_append _ _).isInfix

theorem Mentions.append_right (after : String) (h : Mentions text word) :
    Mentions (text ++ after) word := by
  rw [Mentions, String.toList_append]
  exact h.trans (List.prefix_append _ _).isInfix

theorem Mentions.commaSeparated {parts : List String} (hm : text ∈ parts)
    (h : Mentions text word) : Mentions (Target.commaSeparated parts) word := by
  unfold Target.commaSeparated
  induction parts with
  | nil => cases hm
  | cons part rest ih =>
    cases rest with
    | nil =>
      cases List.mem_singleton.mp hm
      simpa using h
    | cons next others =>
      rw [String.intercalate_cons_cons]
      rcases List.mem_cons.mp hm with rfl | hm
      · exact (h.append_right _).append_right _
      · exact (ih hm).append_left _

theorem Mentions.negate (h : Mentions text word) : Mentions (negate text) word := by
  unfold CheckedTypes.negate
  split
  next => exact (h.append_left _).append_right _
  next => exact h.append_left _

theorem Mentions.ifHeader (h : Mentions text word) (target : Target) :
    Mentions (target.ifHeader text) word := by
  cases target <;> exact (h.append_left _).append_right _

namespace Cursor

variable {cursor : Cursor} {level : Nat}

theorem mentions_expression (target : Target) (h : .index level ∈ cursor.raw) :
    Mentions (target.expression cursor) (loopVariable level) := by
  have accessor : "[" ++ loopVariable level ++ "]" ∈ cursor.accessors target.fieldAccessor :=
    List.mem_map.mpr ⟨_, h, rfl⟩
  have inside : Mentions ("[" ++ loopVariable level ++ "]") (loopVariable level) :=
    (Mentions.append_left _ (List.infix_refl _)).append_right _
  refine Mentions.append_left _ (inside.trans ?_)
  rw [String.toList_join, List.flatMap_def]
  exact List.infix_of_mem_flatten (List.mem_map_of_mem accessor)

theorem mentions_rawArguments (h : .index level ∈ cursor.raw) :
    loopVariable level ∈ cursor.rawArguments :=
  List.mem_map.mpr ⟨_, h, rfl⟩

theorem mentions_valueArgument (target : Target) (h : .index level ∈ cursor.raw) (scalar : Scalar)
    (optional : Bool) :
    Mentions (target.valueArgument cursor scalar optional) (loopVariable level) := by
  have expression := mentions_expression target h
  cases target with
  | go =>
    unfold Target.valueArgument
    dsimp only
    split
    next => exact expression
    next =>
      split
      next => exact (expression.append_left _).append_right _
      next => exact expression.append_left _
  | typescript => exact expression

theorem mentions_failureText (target : Target) (h : .index level ∈ cursor.raw) (reason : String) :
    Mentions (target.failureText reason cursor) (loopVariable level) := by
  have argument := mentions_rawArguments h
  have word : Mentions (loopVariable level) (loopVariable level) := List.infix_refl _
  cases target with
  | go =>
    have list := word.commaSeparated (List.mem_cons_of_mem (quote reason) argument)
    exact (list.append_left _).append_right _
  | typescript =>
    have list := word.commaSeparated argument
    exact (list.append_left _).append_right _

theorem mentions_memberText (target : Target) (h : .index level ∈ cursor.raw) (name : String) :
    Mentions (target.memberText cursor name) (loopVariable level) := by
  have word : Mentions (loopVariable level) (loopVariable level) := List.infix_refl _
  cases target with
  | go =>
    have argument := List.mem_append_left [quote name] (mentions_rawArguments h)
    have list := word.commaSeparated (List.mem_cons_of_mem "raw" argument)
    exact (list.append_left _).append_right _
  | typescript =>
    have expression := mentions_expression .typescript h
    exact (((expression.append_left _).append_right _).append_right _).append_right _

end Cursor

theorem Helper.mentions_call {arguments : List String} (target : Target) (helper : Helper)
    (hm : text ∈ arguments) (h : Mentions text word) :
    Mentions (helper.call target arguments) word :=
  ((h.commaSeparated hm).append_left _).append_right _

theorem Predicate.mentions_text (predicate : Predicate) {level : Nat} (target : Target)
    (h : .index level ∈ predicate.cursor.raw) :
    Mentions (predicate.text target) (loopVariable level) := by
  have last {arguments : List String} {text : String} : text ∈ arguments ++ [text] :=
    List.mem_append_right arguments List.mem_cons_self
  cases predicate with
  | present cursor =>
    have expression : Mentions (target.expression cursor) _ := Cursor.mentions_expression target h
    cases target with
    | go => exact expression.append_right _
    | typescript => exact (expression.append_left _).append_right _
  | member object name => exact Cursor.mentions_memberText target h name
  | integer constraints cursor optional =>
    have value := Cursor.mentions_valueArgument target h .integer optional
    exact Helper.mentions_call target .integer last value
  | number constraints cursor optional =>
    have value := Cursor.mentions_valueArgument target h .number optional
    exact Helper.mentions_call target .number last value
  | length constraints cursor optional =>
    have value := Cursor.mentions_valueArgument target h .string optional
    exact Helper.mentions_call target .string last value
  | pattern index cursor optional =>
    have value := Cursor.mentions_valueArgument target h .string optional
    exact Helper.mentions_call target .pattern (List.mem_cons_of_mem _ List.mem_cons_self) value
  | array constraints cursor =>
    exact Helper.mentions_call target .array last (Cursor.mentions_expression target h)

/-- Every counter on the way to a place stands in the rows that look at the place. -/
theorem Row.mentions_text {row : Row} {cursor : Cursor} {level : Nat} (hm : cursor ∈ row.cursors)
    (h : .index level ∈ cursor.raw) (target : Target) :
    Mentions (row.text target) (loopVariable level) := by
  cases row with
  | test predicate =>
    cases List.mem_singleton.mp hm
    exact ((predicate.mentions_text target h).negate).ifHeader target
  | failure reason place =>
    cases List.mem_singleton.mp hm
    exact cursor.mentions_failureText target h reason.text
  | dispatch ident place =>
    cases List.mem_singleton.mp hm
    exact ((cursor.mentions_expression target h).append_left _).append_right _
  | guard place =>
    cases List.mem_singleton.mp hm
    exact ((Predicate.present cursor).mentions_text target h).ifHeader target
  | loop place =>
    cases List.mem_singleton.mp hm
    have expression := cursor.mentions_expression target h
    cases target with
    | go => exact (expression.append_left _).append_right _
    | typescript =>
      exact ((((expression.append_left _).append_right _).append_right _).append_right _)
  | blockEnd => cases hm

end CheckedTypes
