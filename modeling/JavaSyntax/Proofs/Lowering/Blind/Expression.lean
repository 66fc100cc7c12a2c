import JavaSyntax.Proofs.Lowering.Blind.Type

/-!
# Blind lowerings of expressions

Expressions are read by name, by tag and by place: the first child, the second, or all three. A
place is counted among the children, which are the same without comments.

* `literalKind?_stripped`: what literal a node is;
* `blind_updateOperation`, `blind_fieldAccess`, `blind_instanceCreation`: the lowerings that look at
  places;
* `blind_expressionBody`: all expressions.

Literals and operators are told by their texts as well, which are cut from the source by extents that
stay as they are. An extent is compared at one place only, where the keyword of `A.super.f()` is told
from the object of the call.
-/

namespace JavaSyntax

namespace Lowering

variable (source : String)

/-! ## Literals and operations -/

/-- A literal is told by its tag, and the size of a number by the end of its text. -/
theorem literalKind?_stripped (raw : RawNode) :
    literalKind? source raw.stripped = literalKind? source raw := by
  unfold literalKind?
  rw [RawNode.tag_stripped, RawNode.text_stripped]

/-- An operator and its operand, both held under names. What is no known operator is refused at the
operator. -/
theorem blind_unaryOperation : Blind (unaryOperation source) := by
  intro raw
  unfold unaryOperation
  rw [RawNode.field?_stripped]
  cases raw.field? "operator" with
  | none => exact .unsupported raw
  | some operator =>
    dsimp only [Option.map_some]
    rw [RawNode.text_stripped, RawNode.token_stripped, RawNode.span_stripped]
    split
    · exact .unsupported operator
    · refine .bind (strips_field (blind_request .expression) raw "operand") fun operand => ?_
      exact .checked rfl

/-- An operator between two operands. -/
theorem blind_binaryOperation : Blind (binaryOperation source) := by
  intro raw
  unfold binaryOperation
  rw [RawNode.field?_stripped raw "operator"]
  cases raw.field? "operator" with
  | none => exact .unsupported raw
  | some operator =>
    dsimp only [Option.map_some]
    rw [RawNode.text_stripped, RawNode.token_stripped, RawNode.span_stripped]
    split
    · exact .unsupported operator
    · refine .bind (strips_field (blind_request .expression) raw "left") fun left => ?_
      refine .bind (strips_field (blind_request .expression) raw "right") fun right => ?_
      exact .checked rfl

/-- An operator between a target and a value. -/
theorem blind_assignmentOperation : Blind (assignmentOperation source) := by
  intro raw
  unfold assignmentOperation
  rw [RawNode.field?_stripped raw "operator"]
  cases raw.field? "operator" with
  | none => exact .unsupported raw
  | some operator =>
    dsimp only [Option.map_some]
    rw [RawNode.text_stripped, RawNode.token_stripped, RawNode.span_stripped]
    split
    · exact .unsupported operator
    · refine .bind (strips_field (blind_request .expression) raw "left") fun target => ?_
      refine .bind (strips_field (blind_request .expression) raw "right") fun value => ?_
      exact .checked rfl

/-- Whether the operator comes first does not change, since a comment is no child. -/
theorem blind_updateOperation : Blind (updateOperation source) := by
  intro raw
  unfold updateOperation
  have first : (raw.stripped.children.head?.any fun first => !first.isNamed) =
      raw.children.head?.any fun first => !first.isNamed := by
    rw [RawNode.children_stripped, List.head?_map, Option.any_map]
    exact congrArg (Option.any · _) (funext fun c => by simp)
  rw [first, RawNode.tokens_stripped, RawNode.find?_map_stripped (fun token => by simp)]
  dsimp only
  cases raw.tokens.find? fun token => token.tag == "++" || token.tag == "--" with
  | none => exact .unsupported raw
  | some operator =>
    dsimp only [Option.map_some]
    rw [RawNode.text_stripped, RawNode.token_stripped, RawNode.span_stripped]
    split
    · exact .unsupported operator
    · refine .bind (strips_firstNamed (blind_request .expression) raw) fun operand => ?_
      exact .checked rfl

/-- A pattern is refused, and so is a name behind the type; else a value and a type. -/
theorem blind_instanceOfTest : Blind (instanceOfTest source) := by
  intro raw
  unfold instanceOfTest
  rw [RawNode.field?_stripped raw "pattern", RawNode.field?_stripped raw "name", ← Option.map_or,
    RawNode.findToken?_stripped]
  cases (raw.field? "pattern").or (raw.field? "name") with
  | some pattern => exact .unsupported pattern
  | none =>
    cases raw.findToken? "instanceof" with
    | none => exact .unsupported raw
    | some keyword =>
      refine .bind (strips_field (blind_request .expression) raw "left") fun value => ?_
      refine .bind (strips_field (blind_request .type) raw "right") fun type => ?_
      exact .checked (by simp)

/-- More than one type is refused, so the types are counted. -/
theorem blind_castExpression : Blind castExpression := by
  intro raw
  unfold castExpression
  dsimp only
  rw [RawNode.fields_stripped, List.length_map, List.head?_map]
  split
  · exact .unsupported raw
  · refine .bind (.optional (blind_request .type) _) fun type => ?_
    refine .bind (strips_field (blind_request .expression) raw "value") fun value => ?_
    exact .checked (by simp)

/-! ## Selections and calls -/

/-- The three children of `A.super.f` are counted without comments. -/
theorem blind_fieldAccess : Blind (fieldAccess source) := by
  intro raw
  unfold fieldAccess
  refine .bind (strips_field (blind_request .expression) raw "object") fun object => ?_
  refine .checked ?_
  rw [RawNode.namedChildren_stripped, RawNode.field?_stripped, RawNode.span_stripped,
    Option.map_map, identifier_comp_stripped]
  cases object with
  | none => rfl
  | some qualifier =>
    match raw.namedChildren with
    | [] | [_] | [_, _] | _ :: _ :: _ :: _ :: _ => rfl
    | [_, middle, _] =>
      simp only [List.map_cons, List.map_nil, RawNode.tag_stripped, select_stripped]

/-- The arguments of a list. -/
theorem strips_arguments (raw : RawNode) (name : String) :
    (arguments (raw.stripped.field? name)).Strips (arguments (raw.field? name)) :=
  strips_listedField (blind_request .expression) raw name

/-- What is called can be selected from an object, from `super`, or from both. -/
theorem blind_methodCall : Blind (methodCall source) := by
  intro raw
  unfold methodCall
  refine .bind (strips_field (blind_request .expression) raw "object") fun object => ?_
  refine .bind (strips_typeArguments raw "type_arguments") fun types => ?_
  refine .bind (strips_arguments raw "arguments") fun values => ?_
  refine .checked ?_
  rw [RawNode.field?_stripped raw "object", RawNode.field?_stripped raw "name",
    RawNode.childrenOfTag_stripped, RawNode.span_stripped]
  -- the keyword between object and name is told from the object by its extent
  cases raw.field? "object" with
  | none =>
    dsimp only [Option.map_none]
    rw [RawNode.find?_map_stripped fun candidate => rfl]
    cases object <;> cases (raw.childrenOfTag "super").find? _ <;> cases raw.field? "name" <;>
      simp only [Option.map_none, Option.map_some, select_stripped, identifier_stripped]
  | some found =>
    dsimp only [Option.map_some]
    rw [RawNode.find?_map_stripped fun candidate => by simp, RawNode.span_stripped]
    cases object <;> cases (raw.childrenOfTag "super").find? _ <;> cases raw.field? "name" <;>
      simp only [Option.map_none, Option.map_some, select_stripped, identifier_stripped]

/-- The name is the keyword `new`, or else the second named child. -/
theorem blind_methodReference : Blind (methodReference source) := by
  intro raw
  unfold methodReference
  rw [RawNode.childOfTag?_stripped]
  cases raw.childOfTag? "type_arguments" with
  | some list => exact .unsupported list
  | none =>
    refine .bind (strips_firstNamed (blind_request .expression) raw) fun target => ?_
    refine .checked ?_
    rw [RawNode.findToken?_stripped, RawNode.namedChildren_stripped, List.getElem?_map,
      ← Option.map_or]
    simp

/-- A type and the keyword `class` behind it. -/
theorem blind_classLiteral : Blind (classLiteral source) := by
  intro raw
  unfold classLiteral
  rw [RawNode.namedChildren_stripped, List.head?_map, RawNode.findToken?_stripped]
  cases raw.namedChildren.head? with
  | none => exact .unsupported raw
  | some type =>
    cases raw.findToken? "class" with
    | none => exact .unsupported raw
    | some keyword =>
      refine .bind (blind_request .type type) fun target => .pure ?_
      exact select_stripped source target keyword

/-! ## Creations and lambdas -/

/-- The first child is an enclosing instance if it is named, and the keyword `new` if it is not. -/
theorem blind_instanceCreation : Blind instanceCreation := by
  intro raw
  unfold instanceCreation
  have enclosing : raw.stripped.children.head?.filter RawNode.isNamed =
      (raw.children.head?.filter RawNode.isNamed).map RawNode.stripped := by
    rw [RawNode.children_stripped, List.head?_map]
    cases raw.children.head? with
    | none => rfl
    | some first => simp [Option.filter_some, apply_ite (Option.map RawNode.stripped)]
  rw [enclosing]
  refine .bind (.optional (blind_request .expression) _) fun enclosing => ?_
  refine .bind (strips_typeArguments raw "type_arguments") fun types => ?_
  refine .bind (strips_field (blind_request .type) raw "type") fun type => ?_
  refine .bind (strips_arguments raw "arguments") fun values => ?_
  refine .bind (strips_childOfTag (blind_request .anonymousClass) raw "class_body") fun body => ?_
  exact .checked (by simp)

/-- The size stands last between its brackets, after any annotations. -/
theorem blind_arraySize : Blind arraySize := by
  intro raw
  unfold arraySize
  dsimp only
  rw [RawNode.namedChildren_stripped, RawNode.filter_map_stripped (fun child => by simp),
    List.getLast?_map]
  cases (raw.namedChildren.filter fun child => !isAnnotationUse child).getLast? with
  | some size => exact blind_request .expression size
  | none => exact .unsupported raw

/-- An element in braces, or an expression. -/
theorem blind_arrayElement : Blind arrayElement := by
  intro raw
  unfold arrayElement
  rw [RawNode.tag_stripped]
  split
  · exact blind_request .innerElements raw
  · exact blind_request .expression raw

/-- Braces within braces. -/
theorem blind_innerElementsBody : Blind innerElementsBody := by
  intro raw
  unfold innerElementsBody
  refine .bind (strips_eachNamed blind_arrayElement raw) fun elements => ?_
  exact .checked (by simp)

/-- Brackets with a size in them and brackets without are held under one name and told by their tags. -/
theorem blind_arrayCreation : Blind arrayCreation := by
  intro raw
  unfold arrayCreation
  refine .bind (strips_field (blind_request .type) raw "type") fun base => ?_
  dsimp only
  rw [RawNode.fields_stripped, RawNode.filter_map_stripped (fun dimension => by simp),
    RawNode.filter_map_stripped (fun dimension => by simp), List.getLast?_map]
  refine .bind (.each blind_arraySize _) fun sizes => ?_
  refine .bind (strips_listedField blind_arrayElement raw "value") fun elements => ?_
  refine .checked ?_
  rw [RawNode.span_stripped]
  cases (List.filter _ (raw.fields "dimensions")).getLast? with
  | none => rfl
  | some pairs =>
    -- brackets are dropped from the list before it is wrapped around the type
    dsimp only [Option.map_some]
    rw [closingBrackets_stripped, ← List.map_drop, ← apply_ite (List.map RawNode.stripped)]
    simp only [foldl_arrayOf_stripped]

/-- One bare name, several bare names, or parameters with types. -/
theorem strips_lambdaParameters (raw : RawNode) (name : String) :
    (lambdaParameters source (raw.stripped.field? name)).Strips
      (lambdaParameters source (raw.field? name)) := by
  rw [RawNode.field?_stripped]
  cases raw.field? name with
  | none => exact .pure rfl
  | some found =>
    unfold lambdaParameters
    dsimp only [Option.map_some]
    rw [RawNode.tag_stripped]
    split
    · exact .pure (by simp)
    · refine .pure ?_
      rw [RawNode.namedChildren_stripped, List.map_map]
      exact congrArg (List.map · _) (funext fun name => by simp)
    · exact (Strips.listed (blind_parameter source) (some found)).map rfl

/-- A block or an expression. -/
theorem blind_lambdaBody : Blind lambdaBody := by
  intro raw
  unfold lambdaBody
  rw [RawNode.tag_stripped]
  split
  · exact (blind_block raw).map rfl
  · exact (blind_request .expression raw).map rfl

/-- Parameters and a body. -/
theorem blind_lambdaExpression : Blind (lambdaExpression source) := by
  intro raw
  unfold lambdaExpression
  refine .bind (strips_lambdaParameters source raw "parameters") fun parameters => ?_
  refine .bind (strips_field blind_lambdaBody raw "body") fun body => ?_
  exact .checked (by simp)

/-! ## All expressions -/

/-- All expressions that are no literals, by the tag. -/
theorem blind_compoundBody : Blind (compoundBody source) := by
  intro raw
  unfold compoundBody
  rw [RawNode.tag_stripped]
  split
  case h_4 => exact blind_fieldAccess source raw
  case h_5 => exact blind_scopedName source raw
  case h_6 =>
    -- an expression in parentheses
    refine .bind (strips_firstNamed (blind_request .expression) raw) fun inner => ?_
    exact .checked (by simp)
  case h_7 => exact blind_methodCall source raw
  case h_8 => exact blind_instanceCreation raw
  case h_9 => exact blind_arrayCreation raw
  case h_10 =>
    -- an access to an array
    refine .bind (strips_field (blind_request .expression) raw "array") fun array => ?_
    refine .bind (strips_field (blind_request .expression) raw "index") fun index => ?_
    exact .checked (by simp)
  case h_11 => exact blind_castExpression raw
  case h_12 => exact blind_instanceOfTest source raw
  case h_13 =>
    -- a conditional
    refine .bind (strips_field (blind_request .expression) raw "condition") fun condition => ?_
    refine .bind (strips_field (blind_request .expression) raw "consequence") fun whenTrue => ?_
    refine .bind (strips_field (blind_request .expression) raw "alternative") fun whenFalse => ?_
    exact .checked (by simp)
  case h_14 => exact blind_unaryOperation source raw
  case h_15 => exact blind_binaryOperation source raw
  case h_16 => exact blind_assignmentOperation source raw
  case h_17 => exact blind_updateOperation source raw
  case h_18 => exact blind_lambdaExpression source raw
  case h_19 => exact blind_methodReference source raw
  case h_20 => exact blind_classLiteral source raw
  case h_21 =>
    -- a type in the place of an expression
    split
    · exact blind_typeBody source raw
    · exact .unsupported raw
  -- names
  all_goals exact .pure (by simp)

/-- A literal is told first; everything else is left to the tag. -/
theorem blind_expressionBody : Blind (expressionBody source) := by
  intro raw
  unfold expressionBody
  rw [literalKind?_stripped, RawNode.token_stripped]
  split
  · exact .pure rfl
  · exact blind_compoundBody source raw

end Lowering

end JavaSyntax
