import JavaSyntax.Proofs.Lowering.Forms.Variable

/-!
# Forms of expressions

* `ExpressionForm`: what an expression is lowered to, one case for each form of it;
* `CalleeForm`: the name of a call, which is selected from what stands before it.

A form says by which fields, tokens or positions the parts of a node were found, what each part was
lowered to, and what was put together of them. It forgets in which order the parts were asked for and
why other nodes are refused, so it holds of a result only. Every later induction on expressions goes
through these cases: how tall they are, from where to where they reach, in which role their parts stand
and in which order. A lemma `…_form` takes one lowering apart, by rewriting its steps to what each of
them gave, and `compoundBody_form` picks the lemma for the tag.
-/

namespace JavaSyntax

namespace Lowering

variable {source : String} {below : Answers} {raw : RawNode}

/-! ## Expressions -/

/-- The size between a pair of brackets is the last named child of the pair that is no annotation. -/
theorem arraySize_form {e : Expression} (h : (arraySize raw).run below = .ok e) :
    ∃ size, (raw.namedChildren.filter fun child => !isAnnotationUse child).getLast? = some size ∧
      Gives below expression size e := by
  unfold arraySize at h
  dsimp only at h
  split at h
  case h_1 size last => exact ⟨size, last, h⟩
  case h_2 => exact absurd h run_unsupported_eq_ok.mp

/-- The brackets that wrap the element type of an array creation: all pairs without a size, apart
from the first if there are no sizes. -/
def creationBrackets (raw : RawNode) (sizes : List Expression) : List RawNode :=
  let pairs := brackets ((raw.fields "dimensions").filter fun d => !(d.tag == "dimensions_expr")).getLast?
  if sizes.isEmpty then pairs.drop 1 else pairs

variable (source below raw) in
/-- What the name of a call is lowered to. -/
inductive CalleeForm : Expression → Prop where
  /-- A name with nothing before it. -/
  | plain {name} (absent : raw.field? "object" = none) (named : raw.field? "name" = some name) :
      CalleeForm (.identifier (identifier source name))
  /-- A name selected from an object. -/
  | qualified {object name}
      (given : Option.Rel (Gives below expression) (raw.field? "object") (some object))
      (named : raw.field? "name" = some name) : CalleeForm (select source object name)
  /-- A name selected from the `super` of an outer type, as in `A.super.f`. The keyword is not a part
  that a field holds, so it is told from the object by where it stands. -/
  | outerSuper {held object keyword name} (found : raw.field? "object" = some held)
      (given : Gives below expression held object) (listed : keyword ∈ raw.childrenOfTag "super")
      (between : held.span ≠ keyword.span) (named : raw.field? "name" = some name) :
      CalleeForm (select source (select source object keyword) name)

variable (source below) in
/-- What the parameters of a lambda are lowered to. -/
inductive LambdaParametersForm : Option RawNode → List LambdaParameter → Prop where
  | absent : LambdaParametersForm none []
  /-- One name without parentheses. -/
  | single (found : RawNode) :
      LambdaParametersForm (some found) [.inferred (identifier source found)]
  /-- Names in parentheses, whose types are inferred. -/
  | inferred (found : RawNode) :
      LambdaParametersForm (some found)
        (found.namedChildren.map fun name => .inferred (identifier source name))
  /-- Parameters with types. -/
  | declared {found : RawNode} {vs}
      (given : List.Forall₂ (Gives below (parameter source)) found.namedChildren vs) :
      LambdaParametersForm (some found) (vs.map .declared)

variable (below raw) in
/-- What the body of a lambda is lowered to. -/
inductive LambdaBodyForm : LambdaBody → Prop where
  | block {b} (given : Gives below block raw b) : LambdaBodyForm (.block b)
  | expression {e} (given : Gives below expression raw e) : LambdaBodyForm (.expression e)

variable (source below raw) in
/-- What an expression is lowered to. -/
inductive ExpressionForm : Expression → Prop where
  | literal {kind} (isLiteral : literalKind? source raw = some kind) :
      ExpressionForm (.literal kind (raw.token source))
  /-- A name or a keyword that stands for one. Of such nodes only the text is used. -/
  | name : ExpressionForm (.identifier (identifier source raw))
  /-- What may be a type as well: a qualified name, or a type in the place of an expression. -/
  | type {e} (form : TypeForm source below raw e) : ExpressionForm e
  | fieldAccess {object field} (tag : raw.tag = "field_access")
      (given : Option.Rel (Gives below expression) (raw.field? "object") (some object))
      (named : raw.field? "field" = some field) :
      ExpressionForm (.memberSelect raw.span object (identifier source field))
  /-- A field of the `super` of an outer type. The keyword is the second of three named children, and
  one more selection is put together for it. -/
  | outerSuperAccess {object first middle last field} (tag : raw.tag = "field_access")
      (given : Option.Rel (Gives below expression) (raw.field? "object") (some object))
      (parts : raw.namedChildren = [first, middle, last]) (keyword : middle.tag = "super")
      (named : raw.field? "field" = some field) :
      ExpressionForm
        (.memberSelect raw.span (select source object middle) (identifier source field))
  | parenthesized {inner} (tag : raw.tag = "parenthesized_expression")
      (given : Option.Rel (Gives below expression) raw.namedChildren.head? (some inner)) :
      ExpressionForm (.parenthesized raw.span inner)
  | call {callee types values} (tag : raw.tag = "method_invocation")
      (called : CalleeForm source below raw callee)
      (typed : List.Forall₂ (Gives below typeExpression) (items (raw.field? "type_arguments")) types)
      (given : List.Forall₂ (Gives below expression) (items (raw.field? "arguments")) values) :
      ExpressionForm (.methodInvocation raw.span callee types values)
  /-- What stands before `new` is held under no field, but it is the first child if there is anything.
  -/
  | creation {enclosing types type values body} (tag : raw.tag = "object_creation_expression")
      (outer : Option.Rel (Gives below expression) (raw.children.head?.filter RawNode.isNamed)
        enclosing)
      (typed : List.Forall₂ (Gives below typeExpression) (items (raw.field? "type_arguments")) types)
      (made : Option.Rel (Gives below typeExpression) (raw.field? "type") (some type))
      (given : List.Forall₂ (Gives below expression) (items (raw.field? "arguments")) values)
      (extended : Option.Rel (Gives below anonymousClass) (raw.childOfTag? "class_body") body) :
      ExpressionForm (.newClass raw.span enclosing types type values body)
  /-- Of the brackets those with sizes make the sizes, all others wrap the element type. -/
  | arrayCreation {base sizes elements} (tag : raw.tag = "array_creation_expression")
      (made : Option.Rel (Gives below typeExpression) (raw.field? "type") base)
      (sized : List.Forall₂ (Gives below arraySize)
        ((raw.fields "dimensions").filter fun d => d.tag == "dimensions_expr") sizes)
      (filled : List.Forall₂ (Gives below arrayElement) (items (raw.field? "value")) elements) :
      ExpressionForm (.newArray raw.span
        (base.map fun type => (creationBrackets raw sizes).foldl arrayOf type) sizes elements)
  | arrayAccess {array index} (tag : raw.tag = "array_access")
      (given : Option.Rel (Gives below expression) (raw.field? "array") (some array))
      (at_ : Option.Rel (Gives below expression) (raw.field? "index") (some index)) :
      ExpressionForm (.arrayAccess raw.span array index)
  /-- Of several types in a cast all but the first have been refused. -/
  | cast {type value} (tag : raw.tag = "cast_expression")
      (typed : Option.Rel (Gives below typeExpression) (raw.fields "type").head? (some type))
      (given : Option.Rel (Gives below expression) (raw.field? "value") (some value)) :
      ExpressionForm (.typeCast raw.span type value)
  | instanceOf {value keyword type} (tag : raw.tag = "instanceof_expression")
      (found : raw.findToken? "instanceof" = some keyword)
      (given : Option.Rel (Gives below expression) (raw.field? "left") (some value))
      (typed : Option.Rel (Gives below typeExpression) (raw.field? "right") (some type)) :
      ExpressionForm (.instanceOf raw.span value (keyword.token source) type)
  | conditional {condition whenTrue whenFalse} (tag : raw.tag = "ternary_expression")
      (tested : Option.Rel (Gives below expression) (raw.field? "condition") (some condition))
      (met : Option.Rel (Gives below expression) (raw.field? "consequence") (some whenTrue))
      (unmet : Option.Rel (Gives below expression) (raw.field? "alternative") (some whenFalse)) :
      ExpressionForm (.conditional raw.span condition whenTrue whenFalse)
  | unary {operator operation operand} (tag : raw.tag = "unary_expression")
      (found : raw.field? "operator" = some operator)
      (known : UnaryOperation.ofText? (operator.text source) true = some operation)
      (given : Option.Rel (Gives below expression) (raw.field? "operand") (some operand)) :
      ExpressionForm (.unary operation raw.span (operator.token source) operand)
  | binary {operator operation left right} (tag : raw.tag = "binary_expression")
      (found : raw.field? "operator" = some operator)
      (known : BinaryOperation.ofText? (operator.text source) = some operation)
      (first : Option.Rel (Gives below expression) (raw.field? "left") (some left))
      (second : Option.Rel (Gives below expression) (raw.field? "right") (some right)) :
      ExpressionForm (.binary operation raw.span left (operator.token source) right)
  | assignment {operator operation target value} (tag : raw.tag = "assignment_expression")
      (found : raw.field? "operator" = some operator)
      (known : AssignmentOperation.ofText? (operator.text source) = some operation)
      (assigned : Option.Rel (Gives below expression) (raw.field? "left") (some target))
      (given : Option.Rel (Gives below expression) (raw.field? "right") (some value)) :
      ExpressionForm (.assignment operation raw.span target (operator.token source) value)
  /-- Operator and operand are told apart by whether they are named, and what comes first tells the
  side. -/
  | update {operator operation operand} (tag : raw.tag = "update_expression")
      (found : (raw.tokens.find? fun token => token.tag == "++" || token.tag == "--") =
        some operator)
      (known : UnaryOperation.ofText? (operator.text source)
        (raw.children.head?.any fun first => !first.isNamed) = some operation)
      (given : Option.Rel (Gives below expression) raw.namedChildren.head? (some operand)) :
      ExpressionForm (.unary operation raw.span (operator.token source) operand)
  | lambda {parameters body} (tag : raw.tag = "lambda_expression")
      (declared : LambdaParametersForm source below (raw.field? "parameters") parameters)
      (given : Option.Rel (LambdaBodyForm below) (raw.field? "body") (some body)) :
      ExpressionForm (.lambda raw.span parameters body)
  /-- The method is the second named child, if it is not the keyword `new`. -/
  | methodReference {target method} (tag : raw.tag = "method_reference")
      (given : Option.Rel (Gives below expression) raw.namedChildren.head? (some target))
      (named : (raw.findToken? "new").or raw.namedChildren[1]? = some method) :
      ExpressionForm (.methodReference raw.span target (identifier source method))
  /-- The keyword `class` is selected from the type, as a name would be. -/
  | classLiteral {type target keyword} (tag : raw.tag = "class_literal")
      (first : raw.namedChildren.head? = some type) (found : raw.findToken? "class" = some keyword)
      (given : Gives below typeExpression type target) :
      ExpressionForm (select source target keyword)

section

variable {e : Expression}

/-- A selection from an object, with or without a `super` between them. -/
theorem fieldAccess_form (tag : raw.tag = "field_access")
    (h : (fieldAccess source raw).run below = .ok e) : ExpressionForm source below raw e := by
  unfold fieldAccess at h
  simp only [run_bind_eq_ok, run_optional_eq_ok, run_checked_eq_ok, Checked.memberSelect_eq_ok,
    Option.map_eq_some_iff] at h
  obtain ⟨object, given, scope, made, _, ⟨field, named, rfl⟩, rfl⟩ := h
  split at made
  -- three named children, of which the second is the keyword or is not
  case h_1 qualifier first middle last parts =>
    split at made
    case isTrue keyword =>
      rw [Option.some.injEq] at made
      rw [← made]
      exact .outerSuperAccess tag given parts (eq_of_beq keyword) named
    case isFalse => exact .fieldAccess tag (made ▸ given) named
  case h_2 => exact .fieldAccess tag (made ▸ given) named

/-- A call, with the three forms of what is called. -/
theorem methodCall_form (tag : raw.tag = "method_invocation")
    (h : (methodCall source raw).run below = .ok e) : ExpressionForm source below raw e := by
  unfold methodCall at h
  simp only [run_bind_eq_ok, run_optional_eq_ok, run_checked_eq_ok, typeArguments, arguments,
    run_listed_eq_ok, Checked.methodInvocation_eq_ok] at h
  obtain ⟨object, given, types, typed, values, passed, callee, called, rfl⟩ := h
  refine .call tag ?_ typed passed
  cases named : raw.field? "name" with
  | none =>
    rw [named] at called
    split at called <;> simp_all
  | some name =>
    -- the object decides whether there is anything to select the name from
    generalize found : raw.field? "object" = part at given called
    cases given with
    | none =>
      simp only [named, Option.some.injEq] at called
      rw [← called]
      exact .plain found named
    | some given =>
      rename_i held object
      cases first : (raw.childrenOfTag "super").find? fun candidate => held.span != candidate.span with
      | none =>
        simp only [named, first, Option.some.injEq] at called
        rw [← called]
        exact .qualified (found ▸ .some given) named
      | some keyword =>
        simp only [named, first, Option.some.injEq] at called
        rw [← called]
        -- this `super` lies elsewhere than the object, so it stands between the object and the name
        have between := List.find?_some first
        exact .outerSuper found given (List.mem_of_find?_eq_some first) (bne_iff_ne.mp between) named

/-- The creation of an instance, with all of its five parts. -/
theorem instanceCreation_form (tag : raw.tag = "object_creation_expression")
    (h : (instanceCreation raw).run below = .ok e) : ExpressionForm source below raw e := by
  unfold instanceCreation at h
  simp only [run_bind_eq_ok, run_optional_eq_ok, run_checked_eq_ok, typeArguments, arguments,
    run_listed_eq_ok, Checked.newClass_eq_ok] at h
  obtain ⟨enclosing, outer, types, typed, _, made, values, given, body, extended, type, rfl, rfl⟩ := h
  exact .creation tag outer typed made given extended

/-- An element is a list between braces, which is asked for as such, or an expression. -/
theorem arrayElement_form {e : Expression} (h : (arrayElement raw).run below = .ok e) :
    below .innerElements raw = .ok e ∨ Gives below expression raw e := by
  unfold arrayElement at h
  split at h
  · exact .inl (gives_request h)
  · exact .inr h

/-- A list between braces inside an array creation is an array without type and sizes. -/
theorem innerElementsBody_form {e : Expression} (h : (innerElementsBody raw).run below = .ok e) :
    ∃ elements, List.Forall₂ (Gives below arrayElement) raw.namedChildren elements ∧
      e = .newArray raw.span none [] elements := by
  unfold innerElementsBody at h
  simp only [run_bind_eq_ok, run_each_eq_ok, run_checked_eq_ok, Checked.newArray_eq_ok] at h
  obtain ⟨elements, given, -, rfl⟩ := h
  exact ⟨elements, given, rfl⟩

/-- The creation of an array, in both directions: the brackets around the element type are those that
`creationBrackets` lists. -/
theorem run_arrayCreation_eq_ok {e : Expression} :
    (arrayCreation raw).run below = .ok e ↔
      ∃ base sizes elements,
        Option.Rel (Gives below typeExpression) (raw.field? "type") base ∧
        List.Forall₂ (Gives below arraySize)
          ((raw.fields "dimensions").filter fun d => d.tag == "dimensions_expr") sizes ∧
        List.Forall₂ (Gives below arrayElement) (items (raw.field? "value")) elements ∧
        (base.isSome ∨ sizes = []) ∧
        e = .newArray raw.span
          (base.map fun type => (creationBrackets raw sizes).foldl arrayOf type) sizes elements := by
  unfold arrayCreation creationBrackets brackets
  simp only [run_bind_eq_ok, run_optional_eq_ok, run_each_eq_ok, run_checked_eq_ok,
    run_listed_eq_ok, Checked.newArray_eq_ok, Option.isSome_map]
  -- whatever the last list of brackets is, if there is one
  generalize ((raw.fields "dimensions").filter fun d => !(d.tag == "dimensions_expr")).getLast? = pairs
  constructor
  · rintro ⟨base, made, sizes, sized, elements, filled, based, rfl⟩
    exact ⟨base, sizes, elements, made, sized, filled, based, by cases pairs <;> rfl⟩
  · rintro ⟨base, sizes, elements, made, sized, filled, based, rfl⟩
    exact ⟨base, made, sizes, sized, elements, filled, based, by cases pairs <;> rfl⟩

theorem arrayCreation_form (tag : raw.tag = "array_creation_expression")
    (h : (arrayCreation raw).run below = .ok e) : ExpressionForm source below raw e := by
  obtain ⟨base, sizes, elements, made, sized, filled, -, rfl⟩ := run_arrayCreation_eq_ok.mp h
  exact .arrayCreation tag made sized filled

/-- A cast to one type. A cast to several is refused. -/
theorem castExpression_form (tag : raw.tag = "cast_expression")
    (h : (castExpression raw).run below = .ok e) : ExpressionForm source below raw e := by
  unfold castExpression at h
  dsimp only at h
  split at h
  case isTrue => exact absurd h run_unsupported_eq_ok.mp
  case isFalse =>
    simp only [run_bind_eq_ok, run_optional_eq_ok, run_checked_eq_ok, Checked.typeCast_eq_ok] at h
    obtain ⟨_, typed, _, given, type, rfl, value, rfl, rfl⟩ := h
    exact .cast tag typed given

/-- A test by type. Tests by pattern have a name on the right and are refused. -/
theorem instanceOfTest_form (tag : raw.tag = "instanceof_expression")
    (h : (instanceOfTest source raw).run below = .ok e) : ExpressionForm source below raw e := by
  unfold instanceOfTest at h
  split at h
  case h_1 => exact absurd h run_unsupported_eq_ok.mp
  case h_2 =>
    split at h
    case h_1 => exact absurd h run_unsupported_eq_ok.mp
    case h_2 keyword found =>
      simp only [run_bind_eq_ok, run_optional_eq_ok, run_checked_eq_ok,
        Checked.instanceOf_eq_ok] at h
      obtain ⟨_, given, _, typed, value, rfl, type, rfl, rfl⟩ := h
      exact .instanceOf tag found given typed

/-- An operation before its operand, found by the text of the operator. -/
theorem unaryOperation_form (tag : raw.tag = "unary_expression")
    (h : (unaryOperation source raw).run below = .ok e) : ExpressionForm source below raw e := by
  unfold unaryOperation at h
  split at h
  case h_1 => exact absurd h run_unsupported_eq_ok.mp
  case h_2 operator found =>
    split at h
    case h_1 => exact absurd h run_unsupported_eq_ok.mp
    case h_2 operation known =>
      simp only [run_bind_eq_ok, run_optional_eq_ok, run_checked_eq_ok, Checked.unary_eq_ok,
        Kind.unary.injEq] at h
      obtain ⟨_, given, _, rfl, operand, rfl, rfl⟩ := h
      exact .unary tag found known given

/-- An operation between its operands, found by the text of the operator. -/
theorem binaryOperation_form (tag : raw.tag = "binary_expression")
    (h : (binaryOperation source raw).run below = .ok e) : ExpressionForm source below raw e := by
  unfold binaryOperation at h
  split at h
  case h_1 => exact absurd h run_unsupported_eq_ok.mp
  case h_2 operator found =>
    split at h
    case h_1 => exact absurd h run_unsupported_eq_ok.mp
    case h_2 operation known =>
      simp only [run_bind_eq_ok, run_optional_eq_ok, run_checked_eq_ok, Checked.binary_eq_ok,
        Kind.binary.injEq] at h
      obtain ⟨_, first, _, second, _, rfl, left, rfl, right, rfl, rfl⟩ := h
      exact .binary tag found known first second

/-- An assignment, found by the text of its operator. -/
theorem assignmentOperation_form (tag : raw.tag = "assignment_expression")
    (h : (assignmentOperation source raw).run below = .ok e) : ExpressionForm source below raw e := by
  unfold assignmentOperation at h
  split at h
  case h_1 => exact absurd h run_unsupported_eq_ok.mp
  case h_2 operator found =>
    split at h
    case h_1 => exact absurd h run_unsupported_eq_ok.mp
    case h_2 operation known =>
      simp only [run_bind_eq_ok, run_optional_eq_ok, run_checked_eq_ok, Checked.assignment_eq_ok,
        Kind.assignment.injEq] at h
      obtain ⟨_, assigned, _, given, _, rfl, target, rfl, value, rfl, rfl⟩ := h
      exact .assignment tag found known assigned given

/-- What an operation beside its operand is lowered to, and how its operator was found. -/
theorem exists_of_updateOperation (h : (updateOperation source raw).run below = .ok e) :
    ∃ operator operation operand,
      (raw.tokens.find? fun token => token.tag == "++" || token.tag == "--") = some operator ∧
      UnaryOperation.ofText? (operator.text source)
        (raw.children.head?.any fun first => !first.isNamed) = some operation ∧
      Option.Rel (Gives below expression) raw.namedChildren.head? (some operand) ∧
      e = .unary operation raw.span (operator.token source) operand := by
  unfold updateOperation at h
  dsimp only at h
  split at h
  case h_1 => exact absurd h run_unsupported_eq_ok.mp
  case h_2 operator found =>
    split at h
    case h_1 => exact absurd h run_unsupported_eq_ok.mp
    case h_2 operation known =>
      simp only [run_bind_eq_ok, run_optional_eq_ok, run_checked_eq_ok, Checked.unary_eq_ok,
        Kind.unary.injEq] at h
      obtain ⟨_, given, _, rfl, operand, rfl, rfl⟩ := h
      exact ⟨operator, operation, operand, found, known, given, rfl⟩

theorem updateOperation_form (tag : raw.tag = "update_expression")
    (h : (updateOperation source raw).run below = .ok e) : ExpressionForm source below raw e := by
  obtain ⟨operator, operation, operand, found, known, given, rfl⟩ := exists_of_updateOperation h
  exact .update tag found known given

/-- The four ways to write the parameters of a lambda. -/
theorem lambdaParameters_form {list : Option RawNode} {parameters : List LambdaParameter}
    (h : (lambdaParameters source list).run below = .ok parameters) :
    LambdaParametersForm source below list parameters := by
  unfold lambdaParameters at h
  split at h
  case h_1 =>
    rw [run_pure_eq_ok] at h
    exact h ▸ .absent
  case h_2 found =>
    split at h
    case h_1 =>
      rw [run_pure_eq_ok] at h
      exact h ▸ .single found
    case h_2 =>
      rw [run_pure_eq_ok] at h
      exact h ▸ .inferred found
    case h_3 =>
      simp only [run_bind_eq_ok, run_pure_eq_ok, Lowering.parameters, run_listed_eq_ok] at h
      obtain ⟨vs, given, rfl⟩ := h
      exact .declared given

/-- The body of a lambda is a block or an expression, by its tag. -/
theorem lambdaBody_form {body : LambdaBody} (h : (lambdaBody raw).run below = .ok body) :
    LambdaBodyForm below raw body := by
  unfold lambdaBody at h
  split at h
  · simp only [run_bind_eq_ok, run_pure_eq_ok] at h
    obtain ⟨b, given, rfl⟩ := h
    exact .block given
  · simp only [run_bind_eq_ok, run_pure_eq_ok] at h
    obtain ⟨e, given, rfl⟩ := h
    exact .expression given

theorem lambdaExpression_form (tag : raw.tag = "lambda_expression")
    (h : (lambdaExpression source raw).run below = .ok e) : ExpressionForm source below raw e := by
  unfold lambdaExpression at h
  simp only [run_bind_eq_ok, run_optional_eq_ok, run_checked_eq_ok, Checked.lambda_eq_ok] at h
  obtain ⟨parameters, declared, _, given, body, rfl, rfl⟩ := h
  obtain ⟨part, found, given⟩ := exists_of_rel_some given
  exact .lambda tag (lambdaParameters_form declared) (found ▸ .some (lambdaBody_form given))

/-- A reference to a method, or with `new` to a constructor. -/
theorem methodReference_form (tag : raw.tag = "method_reference")
    (h : (methodReference source raw).run below = .ok e) : ExpressionForm source below raw e := by
  unfold methodReference at h
  split at h
  case h_1 => exact absurd h run_unsupported_eq_ok.mp
  case h_2 =>
    simp only [run_bind_eq_ok, run_optional_eq_ok, run_checked_eq_ok, Checked.methodReference_eq_ok,
      Option.map_eq_some_iff] at h
    obtain ⟨_, given, target, rfl, _, ⟨method, named, rfl⟩, rfl⟩ := h
    exact .methodReference tag given named

theorem classLiteral_form (tag : raw.tag = "class_literal")
    (h : (classLiteral source raw).run below = .ok e) : ExpressionForm source below raw e := by
  unfold classLiteral at h
  split at h
  case h_1 type keyword first found =>
    simp only [run_bind_eq_ok, run_pure_eq_ok] at h
    obtain ⟨target, given, rfl⟩ := h
    exact .classLiteral tag first found given
  case h_2 => exact absurd h run_unsupported_eq_ok.mp

/-- An expression with parts, by its tag. All other tags are those of names, or the node is a type. -/
theorem compoundBody_form (h : (compoundBody source raw).run below = .ok e) :
    ExpressionForm source below raw e := by
  unfold compoundBody at h
  split at h
  case h_4 tag => exact fieldAccess_form tag h
  case h_5 tag => exact .type (scopedName_form tag h)
  case h_6 tag =>
    -- an expression in parentheses
    simp only [run_bind_eq_ok, run_optional_eq_ok, run_checked_eq_ok, Checked.parenthesized_eq_ok] at h
    obtain ⟨_, given, inner, rfl, rfl⟩ := h
    exact .parenthesized tag given
  case h_7 tag => exact methodCall_form tag h
  case h_8 tag => exact instanceCreation_form tag h
  case h_9 tag => exact arrayCreation_form tag h
  case h_10 tag =>
    -- an access to an array
    simp only [run_bind_eq_ok, run_optional_eq_ok, run_checked_eq_ok, Checked.arrayAccess_eq_ok] at h
    obtain ⟨_, given, _, at_, array, rfl, index, rfl, rfl⟩ := h
    exact .arrayAccess tag given at_
  case h_11 tag => exact castExpression_form tag h
  case h_12 tag => exact instanceOfTest_form tag h
  case h_13 tag =>
    -- a conditional
    simp only [run_bind_eq_ok, run_optional_eq_ok, run_checked_eq_ok, Checked.conditional_eq_ok] at h
    obtain ⟨_, tested, _, met, _, unmet, condition, rfl, whenTrue, rfl, whenFalse, rfl, rfl⟩ := h
    exact .conditional tag tested met unmet
  case h_14 tag => exact unaryOperation_form tag h
  case h_15 tag => exact binaryOperation_form tag h
  case h_16 tag => exact assignmentOperation_form tag h
  case h_17 tag => exact updateOperation_form tag h
  case h_18 tag => exact lambdaExpression_form tag h
  case h_19 tag => exact methodReference_form tag h
  case h_20 tag => exact classLiteral_form tag h
  case h_21 =>
    -- a type in the place of an expression
    split at h
    · exact .type (typeBody_form h)
    · exact absurd h run_unsupported_eq_ok.mp
  -- names
  all_goals
    rw [run_pure_eq_ok] at h
    exact h ▸ .name

/-- **What an expression is lowered to.** A literal is one by its tag, and nothing else is looked at. -/
theorem expressionBody_form (h : (expressionBody source raw).run below = .ok e) :
    ExpressionForm source below raw e := by
  unfold expressionBody at h
  split at h
  case h_1 kind isLiteral =>
    rw [run_pure_eq_ok] at h
    exact h ▸ .literal isLiteral
  case h_2 => exact compoundBody_form h

end

end Lowering

end JavaSyntax
