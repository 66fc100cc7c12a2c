import JavaSyntax.Proofs.Lowering.Forms.Type

/-!
# Forms of annotations and variables

* `AnnotationValueForm`, `ModifiersForm`: values of annotations, and lists of modifiers;
* `run_declarator_eq_ok`, `run_declaredVariable_eq_ok`, `run_spreadParameter_eq_ok`: the three ways to
  declare a variable, each in both directions.

A list of declarators shares its modifiers and its type, but every variable gets both of them and a type
of its own: brackets behind a name wrap the shared type for that name alone. A variable that is declared
alone has the same parts in one node, and a variadic parameter has a declarator without a declaration.
So the three lemmas differ in where the parts are found, and in the extent of the variable.

* `run_variableDeclarations_eq_ok`: a declaration with its declarators;
* `declaredSpan`: the extent of a variable that is declared alone.
-/

namespace JavaSyntax

namespace Lowering

variable {source : String} {below : Answers} {raw : RawNode}

/-! ## Annotations -/

variable (source below raw) in
/-- What a value of an annotation is lowered to. -/
inductive AnnotationValueForm : Expression → Prop where
  /-- A name with a value, which is an assignment whose target is the name. -/
  | pair {operator key value} (tag : raw.tag = "element_value_pair")
      (equals : raw.findToken? "=" = some operator) (named : raw.field? "key" = some key)
      (given : Option.Rel (Gives below (annotationValue source)) (raw.field? "value") (some value)) :
      AnnotationValueForm (.assignment .simple raw.span (.identifier (identifier source key))
        (operator.token source) value)
  /-- Values between braces. -/
  | values {value} (given : below .annotationValues raw = .ok value) : AnnotationValueForm value
  | annotationUse {use} (given : Gives below annotationUse raw use) :
      AnnotationValueForm (.annotationUse use)
  | expression {value} (given : Gives below expression raw value) : AnnotationValueForm value

/-- The value of a pair is that of the part that its field names. -/
theorem namedValue_form {parts : List RawNode} {result : Option Expression}
    (h : (namedValue source parts).run below = .ok result) :
    Option.Rel (Gives below (annotationValue source))
      (parts.find? fun c => c.label.field == some "value") result := by
  induction parts with
  | nil =>
    unfold namedValue at h
    rw [run_pure_eq_ok] at h
    exact h ▸ .none
  | cons part rest ih =>
    unfold namedValue at h
    split at h
    case isTrue held =>
      simp only [run_bind_eq_ok, run_pure_eq_ok] at h
      obtain ⟨value, given, rfl⟩ := h
      simp only [List.find?_cons, held]
      exact .some given
    case isFalse held =>
      simp only [List.find?_cons, held]
      exact ih h

/-- The tag decides what a value is; what is no pair, list or annotation is an expression. -/
theorem annotationValue_form {e : Expression} (h : (annotationValue source raw).run below = .ok e) :
    AnnotationValueForm source below raw e := by
  obtain ⟨label, parts⟩ := raw
  unfold annotationValue at h
  dsimp only at h
  split at h
  -- a pair without the sign of equality is refused
  case h_1 tag =>
    split at h
    case h_1 => exact absurd h run_unsupported_eq_ok.mp
    case h_2 operator equals =>
      simp only [run_bind_eq_ok, run_checked_eq_ok, Checked.assignment_eq_ok,
        Kind.assignment.injEq, Option.map_eq_some_iff] at h
      obtain ⟨_, given, operation, rfl, _, ⟨key, named, rfl⟩, value, rfl, rfl⟩ := h
      exact .pair tag equals named (namedValue_form given)
  case h_2 => exact .values (gives_request h)
  case h_3 | h_4 =>
    simp only [run_bind_eq_ok, run_pure_eq_ok] at h
    obtain ⟨use, given, rfl⟩ := h
    exact .annotationUse given
  case h_5 => exact .expression h

/-- Values between braces make an array without type and sizes, as elements do. -/
theorem annotationValuesBody_form {e : Expression}
    (h : (annotationValuesBody source raw).run below = .ok e) :
    ∃ elements, List.Forall₂ (Gives below (annotationValue source)) raw.namedChildren elements ∧
      e = .newArray raw.span none [] elements := by
  unfold annotationValuesBody at h
  simp only [run_bind_eq_ok, run_each_eq_ok, run_checked_eq_ok, Checked.newArray_eq_ok] at h
  obtain ⟨elements, given, -, rfl⟩ := h
  exact ⟨elements, given, rfl⟩

/-- The use of an annotation has a name and arguments; a marker has none of the latter. -/
theorem annotationBody_form {use : AnnotationUse} (h : (annotationBody source raw).run below = .ok use) :
    ∃ type arguments, Option.Rel (Gives below expression) (raw.field? "name") (some type) ∧
      List.Forall₂ (Gives below (annotationValue source)) (items (raw.field? "arguments")) arguments ∧
      use = ⟨raw.span, type, arguments⟩ := by
  unfold annotationBody at h
  simp only [run_bind_eq_ok, run_optional_eq_ok, run_listed_eq_ok, run_checked_eq_ok,
    Checked.annotationUse_eq_ok] at h
  obtain ⟨_, given, arguments, values, type, rfl, rfl⟩ := h
  exact ⟨type, arguments, given, values, rfl⟩

variable (source below) in
/-- What a list of modifiers is lowered to. -/
def ModifiersForm (list : RawNode) (modifiers : Modifiers) : Prop :=
  ∃ annotations, List.Forall₂ (Gives below annotationUse)
      (list.namedChildren.filter isAnnotationUse) annotations ∧
    modifiers = ⟨list.span, list.tokens.map (RawNode.token source), annotations⟩

/-- A declaration with modifiers has them as one node, and a declaration without has no such node. -/
theorem run_modifiersOf_eq_ok {result : Option Modifiers} :
    (modifiersOf source raw).run below = .ok result ↔
      Option.Rel (ModifiersForm source below) (raw.childOfTag? "modifiers") result := by
  unfold modifiersOf
  cases raw.childOfTag? "modifiers" with
  | none =>
    dsimp only
    rw [run_pure_eq_ok]
    constructor
    · rintro rfl
      exact .none
    · rintro ⟨⟩
      rfl
  | some list =>
    simp only [run_bind_eq_ok, run_each_eq_ok, run_pure_eq_ok]
    constructor
    · rintro ⟨annotations, given, rfl⟩
      exact .some ⟨annotations, given, rfl⟩
    · rintro ⟨annotations, given, rfl⟩
      exact ⟨annotations, given, rfl⟩

/-! ## Variables and parameters -/

/-- A value is a list between braces, which is asked for as such, or an expression. -/
theorem initializer_form {e : Expression} (h : (initializer raw).run below = .ok e) :
    below .arrayElements raw = .ok e ∨ Gives below expression raw e := by
  unfold initializer at h
  split at h
  · exact .inl (gives_request h)
  · exact .inr h

/-- A list between braces in a declarator is an array without type and sizes. No type is missed there.
-/
theorem run_arrayElementsBody_eq_ok {e : Expression} :
    (arrayElementsBody raw).run below = .ok e ↔
      ∃ elements, List.Forall₂ (Gives below initializer) raw.namedChildren elements ∧
        e = .newArray raw.span none [] elements := by
  unfold arrayElementsBody
  simp only [run_bind_eq_ok, run_each_eq_ok, run_checked_eq_ok, Checked.newArray_eq_ok, or_true,
    true_and]
  exact exists_congr fun elements => and_congr_right' eq_comm

/-- One variable of a declaration. It reaches from the declaration, given by its span, to the
declarator. -/
theorem run_declarator_eq_ok {span : Span} {modifiers : Option Modifiers} {type : Option Expression}
    {v : VariableDeclaration} :
    (declarator source span modifiers type raw).run below = .ok v ↔
      ∃ base name value, type = some base ∧ raw.field? "name" = some name ∧
        Option.Rel (Gives below initializer) (raw.field? "value") value ∧
        v = ⟨span.through raw.span, modifiers,
          (brackets (raw.field? "dimensions")).foldl arrayOf base, identifier source name, value⟩ := by
  unfold declarator
  simp only [run_bind_eq_ok, run_optional_eq_ok, run_checked_eq_ok, withDimensions_eq_map,
    Checked.variableDeclaration_eq_ok, Option.map_eq_some_iff]
  constructor
  · rintro ⟨value, given, _, ⟨base, rfl, rfl⟩, _, ⟨name, named, rfl⟩, rfl⟩
    exact ⟨base, name, value, rfl, named, given, rfl⟩
  · rintro ⟨base, name, value, rfl, named, given, rfl⟩
    exact ⟨value, given, _, ⟨base, rfl, rfl⟩, _, ⟨name, named, rfl⟩, rfl⟩

/-- All variables of a declaration: modifiers and type are lowered once, and handed to each declarator.
-/
theorem run_variableDeclarations_eq_ok {vs : List VariableDeclaration} :
    (variableDeclarations source raw).run below = .ok vs ↔
      ∃ modifiers type,
        Option.Rel (ModifiersForm source below) (raw.childOfTag? "modifiers") modifiers ∧
        Option.Rel (Gives below typeExpression) (raw.field? "type") type ∧
        List.Forall₂ (Gives below (declarator source raw.span modifiers type))
          (raw.fields "declarator") vs := by
  simp only [variableDeclarations, run_bind_eq_ok, run_modifiersOf_eq_ok, run_optional_eq_ok,
    run_each_eq_ok, exists_and_left]

/-- The extent of a variable that is declared alone: from its modifiers or type to its value,
brackets or name. -/
def declaredSpan (raw : RawNode) (value : Option RawNode) : Span :=
  ((((raw.childOfTag? "modifiers").or (raw.field? "type")).map RawNode.span).getD raw.span).through
    ((((value.or (raw.field? "dimensions")).or (raw.field? "name")).map RawNode.span).getD raw.span)

/-- A variable that is declared alone: a parameter, a resource or the variable of a loop over elements.
-/
theorem run_declaredVariable_eq_ok {value : Option RawNode} {v : VariableDeclaration} :
    (declaredVariable source raw value).run below = .ok v ↔
      ∃ modifiers base name init,
        Option.Rel (ModifiersForm source below) (raw.childOfTag? "modifiers") modifiers ∧
        Option.Rel (Gives below typeExpression) (raw.field? "type") (some base) ∧
        raw.field? "name" = some name ∧ Option.Rel (Gives below expression) value init ∧
        v = ⟨declaredSpan raw value, modifiers,
          (brackets (raw.field? "dimensions")).foldl arrayOf base, identifier source name, init⟩ := by
  unfold declaredVariable
  simp only [run_bind_eq_ok, run_modifiersOf_eq_ok, run_optional_eq_ok, run_checked_eq_ok,
    withDimensions_eq_map, Checked.variableDeclaration_eq_ok, Option.map_eq_some_iff]
  constructor
  · rintro ⟨modifiers, listed, _, given, init, value, _, ⟨base, rfl, rfl⟩, _, ⟨name, named, rfl⟩, rfl⟩
    exact ⟨modifiers, base, name, init, listed, given, named, value, rfl⟩
  · rintro ⟨modifiers, base, name, init, listed, given, named, value, rfl⟩
    exact ⟨modifiers, listed, _, given, init, value, _, ⟨base, rfl, rfl⟩, _, ⟨name, named, rfl⟩, rfl⟩

/-- A variadic parameter. The dots wrap the element type before any brackets do, and the name stands in a
declarator, though there is no declaration. -/
theorem run_spreadParameter_eq_ok {v : VariableDeclaration} :
    (spreadParameter source raw).run below = .ok v ↔
      ∃ modifiers element declarator name value,
        Option.Rel (ModifiersForm source below) (raw.childOfTag? "modifiers") modifiers ∧
        Option.Rel (Gives below typeExpression)
          (raw.namedChildren.find? fun child =>
            child.tag != "modifiers" && child.tag != "variable_declarator") (some element) ∧
        raw.childOfTag? "variable_declarator" = some declarator ∧
        declarator.field? "name" = some name ∧
        Option.Rel (Gives below initializer) (declarator.field? "value") value ∧
        v = ⟨raw.span, modifiers, ((raw.findToken? "...").toList ++
          brackets (declarator.field? "dimensions")).foldl arrayOf element, identifier source name,
          value⟩ := by
  unfold spreadParameter
  simp only [run_bind_eq_ok, run_modifiersOf_eq_ok, run_optional_eq_ok, run_checked_eq_ok,
    withDimensions_eq_map, Checked.variableDeclaration_eq_ok, Option.map_eq_some_iff,
    Option.bind_eq_some_iff, List.foldl_append]
  constructor
  · rintro ⟨modifiers, listed, element, given, value, init, _, ⟨base, variadic, rfl⟩, _,
      ⟨name, ⟨declarator, found, named⟩, rfl⟩, rfl⟩
    rw [found, Option.bind_some] at init ⊢
    -- without an element type the parameter would be refused
    cases element with
    | none => simp at variadic
    | some element =>
      refine ⟨modifiers, element, declarator, name, value, listed, given, rfl, named, init, ?_⟩
      -- the dots wrap the element type once; a tree that lacks them wraps it by brackets alone
      cases dots : raw.findToken? "..." with
      | none | some =>
        rw [dots, Option.some.injEq] at variadic
        rw [← variadic]
        rfl
  · rintro ⟨modifiers, element, declarator, name, value, listed, given, found, named, init, rfl⟩
    rw [found]
    refine ⟨modifiers, listed, some element, given, value, init, _,
      ⟨(raw.findToken? "...").toList.foldl arrayOf element, ?_, rfl⟩, _,
      ⟨name, ⟨declarator, rfl, named⟩, rfl⟩, rfl⟩
    cases raw.findToken? "..." <;> rfl

/-- A parameter is a variable of its own or a variadic one, by its tag. -/
theorem parameter_form {v : VariableDeclaration} (h : (parameter source raw).run below = .ok v) :
    raw.tag = "formal_parameter" ∧ (declaredVariable source raw none).run below = .ok v ∨
      raw.tag = "spread_parameter" ∧ (spreadParameter source raw).run below = .ok v := by
  unfold parameter at h
  split at h
  case h_1 tag => exact .inl ⟨tag, h⟩
  case h_2 tag => exact .inr ⟨tag, h⟩
  case h_3 => exact absurd h run_unsupported_eq_ok.mp

end Lowering

end JavaSyntax
