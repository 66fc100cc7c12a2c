import JavaSyntax.Lowering.Variable
import JavaSyntax.Operator

/-!
# Expressions
-/

namespace JavaSyntax

namespace Lowering

/-! ## Literals -/

/-- Whether a text ends in one of the given characters. -/
def endsIn (text : String) (suffixes : List Char) : Bool :=
  match text.toList.getLast? with
  | some c => suffixes.contains c
  | none => false

/-- The kind of a literal. The type of a number shows in its last letter. -/
def literalKind? (source : String) (raw : RawNode) : Option LiteralKind :=
  match raw.tag with
  | "decimal_integer_literal" | "hex_integer_literal" | "octal_integer_literal"
  | "binary_integer_literal" =>
    some (if endsIn (raw.text source) ['l', 'L'] then .long else .int)
  | "decimal_floating_point_literal" | "hex_floating_point_literal" =>
    some (if endsIn (raw.text source) ['f', 'F'] then .float else .double)
  | "true" | "false" => some .boolean
  | "character_literal" => some .char
  | "string_literal" => some .string
  | "null_literal" => some .null
  | _ => none

/-! ## Operations -/

/-- `op e` -/
def unaryOperation (source : String) (raw : RawNode) : Lowering Expression :=
  match raw.field? "operator" with
  | none => unsupported raw
  | some operator =>
    match UnaryOperation.ofText? (operator.text source) true with
    | none => unsupported operator
    | some operation => do
      let operand ← optional expression (raw.field? "operand")
      checked (Checked.unary (.unary operation) raw.span (operator.token source) operand)

/-- `a op b` -/
def binaryOperation (source : String) (raw : RawNode) : Lowering Expression :=
  match raw.field? "operator" with
  | none => unsupported raw
  | some operator =>
    match BinaryOperation.ofText? (operator.text source) with
    | none => unsupported operator
    | some operation => do
      let left ← optional expression (raw.field? "left")
      let right ← optional expression (raw.field? "right")
      checked (Checked.binary (.binary operation) raw.span left (operator.token source) right)

/-- `a = b`, `a += b` and so on. -/
def assignmentOperation (source : String) (raw : RawNode) : Lowering Expression :=
  match raw.field? "operator" with
  | none => unsupported raw
  | some operator =>
    match AssignmentOperation.ofText? (operator.text source) with
    | none => unsupported operator
    | some operation => do
      let target ← optional expression (raw.field? "left")
      let value ← optional expression (raw.field? "right")
      checked (Checked.assignment (.assignment operation) raw.span target (operator.token source)
        value)

/-- `++i`, `--i`, `i++` and `i--`. The operator stands before its operand if the node starts with
a token. -/
def updateOperation (source : String) (raw : RawNode) : Lowering Expression :=
  let beforeOperand := raw.children.head?.any fun first => !first.isNamed
  match raw.tokens.find? fun token => token.tag == "++" || token.tag == "--" with
  | none => unsupported raw
  | some operator =>
    match UnaryOperation.ofText? (operator.text source) beforeOperand with
    | none => unsupported operator
    | some operation => do
      let operand ← optional expression raw.namedChildren.head?
      checked (Checked.unary (.unary operation) raw.span (operator.token source) operand)

/-- `e instanceof T`. Patterns are refused. -/
def instanceOfTest (source : String) (raw : RawNode) : Lowering Expression :=
  match (raw.field? "pattern").or (raw.field? "name") with
  | some pattern => unsupported pattern
  | none =>
    match raw.findToken? "instanceof" with
    | none => unsupported raw
    | some keyword => do
      let value ← optional expression (raw.field? "left")
      let type ← optional typeExpression (raw.field? "right")
      checked (Checked.instanceOf raw.span value (keyword.token source) type)

/-- `(T) e`. Casts to several types are refused. -/
def castExpression (raw : RawNode) : Lowering Expression :=
  let types := raw.fields "type"
  if 1 < types.length then unsupported raw
  else do
    let type ← optional typeExpression types.head?
    let value ← optional expression (raw.field? "value")
    checked (Checked.typeCast raw.span type value)

/-! ## Selections and calls -/

/-- `a.b`, `this.x`, `A.this` and `A.super.x`. -/
def fieldAccess (source : String) (raw : RawNode) : Lowering Expression := do
  let object ← optional expression (raw.field? "object")
  let scope :=
    match object, raw.namedChildren with
    | some qualifier, [_, middle, _] =>
      if middle.tag == "super" then some (select source qualifier middle) else object
    | _, _ => object
  checked (Checked.memberSelect raw.span scope ((raw.field? "field").map (identifier source)))

/-- The arguments between parentheses. -/
def arguments (list : Option RawNode) : Lowering (List Expression) :=
  listed expression list

/-- `f(x)`, `a.f(x)`, `a.<T>f(x)` and `A.super.f(x)`. The name of a qualified call is selected from
what stands before it. -/
def methodCall (source : String) (raw : RawNode) : Lowering Expression := do
  let object ← optional expression (raw.field? "object")
  let isBetween (candidate : RawNode) : Bool :=
    match raw.field? "object" with
    | none => true
    | some found => found.span != candidate.span
  let scope :=
    match object, (raw.childrenOfTag "super").find? isBetween with
    | some qualifier, some keyword => some (select source qualifier keyword)
    | other, _ => other
  let method :=
    match scope, raw.field? "name" with
    | some target, some name => some (select source target name)
    | none, some name => some (.identifier (identifier source name))
    | _, none => none
  let types ← typeArguments (raw.field? "type_arguments")
  let values ← arguments (raw.field? "arguments")
  checked (Checked.methodInvocation raw.span method types values)

/-- `T::m`, `e::m` and `T::new`. Type arguments are refused. -/
def methodReference (source : String) (raw : RawNode) : Lowering Expression :=
  match raw.childOfTag? "type_arguments" with
  | some list => unsupported list
  | none => do
    let target ← optional expression raw.namedChildren.head?
    let method := (raw.findToken? "new").or raw.namedChildren[1]?
    checked (Checked.methodReference raw.span target (method.map (identifier source)))

/-- `T.class` -/
def classLiteral (source : String) (raw : RawNode) : Lowering Expression :=
  match raw.namedChildren.head?, raw.findToken? "class" with
  | some type, some keyword => do
    let target ← typeExpression type
    return select source target keyword
  | _, _ => unsupported raw

/-! ## Creations and lambdas -/

/-- `new T(x)`, `outer.new T(x)`, with or without a class body. -/
def instanceCreation (raw : RawNode) : Lowering Expression := do
  let enclosing ← optional expression (raw.children.head?.filter RawNode.isNamed)
  let types ← typeArguments (raw.field? "type_arguments")
  let type ← optional typeExpression (raw.field? "type")
  let values ← arguments (raw.field? "arguments")
  let body ← optional anonymousClass (raw.childOfTag? "class_body")
  checked (Checked.newClass raw.span enclosing types type values body)

/-- The size in one pair of brackets: the last thing in it that is no annotation. -/
def arraySize (dimension : RawNode) : Lowering Expression := do
  let isSize (child : RawNode) : Bool := !isAnnotationUse child
  match (dimension.namedChildren.filter isSize).getLast? with
  | some size => expression size
  | none => unsupported dimension

/-- An element of an array that is created, where bare braces are an array without a type. -/
def arrayElement (raw : RawNode) : Lowering Expression :=
  if raw.tag == "array_initializer" then nested .innerElements raw done else expression raw

/-- What array elements between braces consist of, inside those of a creation. -/
def innerElementsBody (raw : RawNode) : Lowering Expression := do
  let elements ← each arrayElement raw.namedChildren
  checked (Checked.newArray raw.span none [] elements)

/-- `new T[n][]` and `new T[] {...}`. The element type is that of the elements of the array: each
empty pair of brackets wraps it, apart from the first if no size is given. -/
def arrayCreation (raw : RawNode) : Lowering Expression := do
  let base ← optional typeExpression (raw.field? "type")
  let dimensions := raw.fields "dimensions"
  let isSized (dimension : RawNode) : Bool := dimension.tag == "dimensions_expr"
  let sizes ← each arraySize (dimensions.filter isSized)
  let brackets :=
    match (dimensions.filter fun dimension => !isSized dimension).getLast? with
    | some pairs => closingBrackets pairs
    | none => []
  let wrapping := if sizes.isEmpty then brackets.drop 1 else brackets
  let elementType := base.map fun type => wrapping.foldl arrayOf type
  let elements ← listed arrayElement (raw.field? "value")
  checked (Checked.newArray raw.span elementType sizes elements)

/-- The parameters of a lambda: one bare name, names, or declarations. -/
def lambdaParameters (source : String) (raw : Option RawNode) :
    Lowering (List LambdaParameter) :=
  match raw with
  | none => return []
  | some found =>
    match found.tag with
    | "identifier" => return [.inferred (identifier source found)]
    | "inferred_parameters" =>
      return found.namedChildren.map fun name => .inferred (identifier source name)
    | _ => return (← parameters source (some found)).map .declared

/-- The body of a lambda: a block or an expression. -/
def lambdaBody (raw : RawNode) : Lowering LambdaBody :=
  if raw.tag == "block" then return .block (← block raw) else return .expression (← expression raw)

/-- `x -> e`, `(x, y) -> e` and `(int x) -> block`. -/
def lambdaExpression (source : String) (raw : RawNode) : Lowering Expression := do
  let parameters ← lambdaParameters source (raw.field? "parameters")
  let body ← optional lambdaBody (raw.field? "body")
  checked (Checked.lambda raw.span parameters body)

/-! ## All expressions -/

/-- What an expression other than a literal consists of. -/
def compoundBody (source : String) (raw : RawNode) : Lowering Expression :=
  match raw.tag with
  | "identifier" | "this" | "super" => return .identifier (identifier source raw)
  | "field_access" => fieldAccess source raw
  | "scoped_identifier" => scopedName source raw
  | "parenthesized_expression" => do
    let inner ← optional expression raw.namedChildren.head?
    checked (Checked.parenthesized raw.span inner)
  | "method_invocation" => methodCall source raw
  | "object_creation_expression" => instanceCreation raw
  | "array_creation_expression" => arrayCreation raw
  | "array_access" => do
    let array ← optional expression (raw.field? "array")
    let index ← optional expression (raw.field? "index")
    checked (Checked.arrayAccess raw.span array index)
  | "cast_expression" => castExpression raw
  | "instanceof_expression" => instanceOfTest source raw
  | "ternary_expression" => do
    let condition ← optional expression (raw.field? "condition")
    let whenTrue ← optional expression (raw.field? "consequence")
    let whenFalse ← optional expression (raw.field? "alternative")
    checked (Checked.conditional raw.span condition whenTrue whenFalse)
  | "unary_expression" => unaryOperation source raw
  | "binary_expression" => binaryOperation source raw
  | "assignment_expression" => assignmentOperation source raw
  | "update_expression" => updateOperation source raw
  | "lambda_expression" => lambdaExpression source raw
  | "method_reference" => methodReference source raw
  | "class_literal" => classLiteral source raw
  | tag => if typeTags.contains tag then typeBody source raw else unsupported raw

/-- What an expression consists of. -/
def expressionBody (source : String) (raw : RawNode) : Lowering Expression :=
  match literalKind? source raw with
  | some kind => return .literal kind (raw.token source)
  | none => compoundBody source raw

end Lowering

end JavaSyntax
