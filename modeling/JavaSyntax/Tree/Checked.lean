import JavaSyntax.Tree.Basic
import JavaSyntax.Tree.Error

/-!
# Checked construction of nodes

Each form of node has one function here that makes it of parts that may be absent and of a kind
that may be wrong. It first checks the kind, then the parts in the order in which the form lists
them, and reports the first requirement that fails. A node made here therefore

* has a kind of its own family;
* has every part that it needs: sizes of an array need an element type, package annotations a
  package, a case group a label, a union two alternatives, a `try` something beside its block;
* has no part that its kind excludes: only a class has a superclass, a constructor has neither
  result type nor default value, an unbounded wildcard no bound.
-/

namespace JavaSyntax

namespace Checked

/-! ## Requirements -/

/-- A part that has to be there. -/
def require {α : Type} (part : Option α) (kind : Kind) (slot : String) : Except TreeError α :=
  match part with
  | some value => .ok value
  | none => .error (.missingChild kind slot)

/-- A part that must not be there. -/
def forbid {α : Type} (part : Option α) (kind : Kind) (slot : String) : Except TreeError Unit :=
  match part with
  | some _ => .error (.unexpectedChild kind slot)
  | none => .ok ()

/-- A condition on the parts, reported as a missing part. -/
def demand (holds : Bool) (kind : Kind) (slot : String) : Except TreeError Unit :=
  if holds then .ok () else .error (.missingChild kind slot)

/-! ## Names, literals and operations -/

/-- A literal of any kind. Its text is not looked at; the token is kept as it stands. -/
def literal (kind : Kind) (token : SyntaxToken) : Except TreeError Expression :=
  match kind with
  | .literal literalKind => .ok (.literal literalKind token)
  | other => .error (.kindMismatch other "Literal")

/-- `scope.name`. -/
def memberSelect (span : Span) (qualifier : Option Expression) (name : Option Identifier) :
    Except TreeError Expression := do
  let qualifier ← require qualifier .memberSelect "expression"
  let name ← require name .memberSelect "identifier"
  return .memberSelect span qualifier name

/-- `array[index]`. -/
def arrayAccess (span : Span) (array index : Option Expression) :
    Except TreeError Expression := do
  let array ← require array .arrayAccess "expression"
  let index ← require index .arrayAccess "index"
  return .arrayAccess span array index

def parenthesized (span : Span) (inner : Option Expression) : Except TreeError Expression := do
  let inner ← require inner .parenthesized "expression"
  return .parenthesized span inner

def typeCast (span : Span) (type value : Option Expression) : Except TreeError Expression := do
  let type ← require type .typeCast "type"
  let value ← require value .typeCast "expression"
  return .typeCast span type value

/-- `value instanceof type`, with the keyword as the operator. -/
def instanceOf (span : Span) (value : Option Expression) (keyword : SyntaxToken)
    (type : Option Expression) : Except TreeError Expression := do
  let value ← require value .instanceOf "expression"
  let type ← require type .instanceOf "type"
  return .instanceOf span value keyword type

def conditional (span : Span) (condition whenTrue whenFalse : Option Expression) :
    Except TreeError Expression := do
  let condition ← require condition .conditional "condition"
  let whenTrue ← require whenTrue .conditional "true_expression"
  let whenFalse ← require whenFalse .conditional "false_expression"
  return .conditional span condition whenTrue whenFalse

/-- An operation with one operand, on whichever side of the operator that stands. -/
def unary (kind : Kind) (span : Span) (operator : SyntaxToken) (operand : Option Expression) :
    Except TreeError Expression :=
  match kind with
  | .unary operation => do
    let operand ← require operand kind "expression"
    return .unary operation span operator operand
  | other => .error (.kindMismatch other "UnaryExpression")

/-- An operation with two operands. -/
def binary (kind : Kind) (span : Span) (left : Option Expression) (operator : SyntaxToken)
    (right : Option Expression) : Except TreeError Expression :=
  match kind with
  | .binary operation => do
    let left ← require left kind "left_operand"
    let right ← require right kind "right_operand"
    return .binary operation span left operator right
  | other => .error (.kindMismatch other "BinaryExpression")

/-- An assignment, simple or with an operation. A pair of an annotation is a simple one as well. -/
def assignment (kind : Kind) (span : Span) (target : Option Expression) (operator : SyntaxToken)
    (value : Option Expression) : Except TreeError Expression :=
  match kind with
  | .assignment operation => do
    let target ← require target kind "variable"
    let value ← require value kind "expression"
    return .assignment operation span target operator value
  | other => .error (.kindMismatch other "AssignmentExpression")

/-! ## Calls, creations and lambdas -/

/-- A call. The `select` is what is called, a name or a selection that ends in one. -/
def methodInvocation (span : Span) (select : Option Expression)
    (typeArguments arguments : List Expression) : Except TreeError Expression := do
  let select ← require select .methodInvocation "method_select"
  return .methodInvocation span select typeArguments arguments

/-- The creation of an instance. Besides the type all parts may be absent. -/
def newClass (span : Span) (enclosing : Option Expression) (typeArguments : List Expression)
    (type : Option Expression) (arguments : List Expression) (body : Option TypeDeclaration) :
    Except TreeError Expression := do
  let type ← require type .newClass "identifier"
  return .newClass span enclosing typeArguments type arguments body

/-- The creation of an array, and the elements between braces alone. Only sizes ask for the type. -/
def newArray (span : Span) (elementType : Option Expression)
    (dimensions initializers : List Expression) : Except TreeError Expression := do
  demand (elementType.isSome || dimensions.isEmpty) .newArray "element_type"
  return .newArray span elementType dimensions initializers

/-- A lambda; parameters may be names alone. -/
def lambda (span : Span) (parameters : List LambdaParameter) (body : Option LambdaBody) :
    Except TreeError Expression := do
  let body ← require body .lambda "body"
  return .lambda span parameters body

/-- `target::method`. -/
def methodReference (span : Span) (target : Option Expression) (method : Option Identifier) :
    Except TreeError Expression := do
  let target ← require target .methodReference "expression"
  let method ← require method .methodReference "method"
  return .methodReference span target method

/-- An annotation where it is used, with arguments as they are written. -/
def annotationUse (span : Span) (type : Option Expression) (arguments : List Expression) :
    Except TreeError AnnotationUse := do
  let type ← require type .annotationUse "annotation_type"
  return ⟨span, type, arguments⟩

/-! ## Types -/

/-- One layer of an array type; more brackets make more layers. -/
def arrayType (span : Span) (element : Option Expression) : Except TreeError Expression := do
  let element ← require element .arrayType "type"
  return .arrayType span element

/-- A type with arguments. There may be none between the angles. -/
def parameterizedType (span : Span) (base : Option Expression) (arguments : List Expression) :
    Except TreeError Expression := do
  let base ← require base .parameterizedType "type"
  return .parameterizedType span base arguments

/-- A wildcard. The kind has to agree with the bound: only the kind without bounds has none. -/
def wildcard (kind : Kind) (span : Span) (bound : Option Expression) :
    Except TreeError Expression :=
  match kind with
  | .wildcard .unbounded => do
    forbid bound kind "bound"
    return .wildcard .unbounded span bound
  | .wildcard bounded => do
    demand bound.isSome kind "bound"
    return .wildcard bounded span bound
  | other => .error (.kindMismatch other "Wildcard")

/-- Several types for one parameter of a catch clause. -/
def unionType (span : Span) (alternatives : List Expression) : Except TreeError Expression := do
  demand (decide (2 ≤ alternatives.length)) .unionType "alternatives"
  return .unionType span alternatives

/-! ## Declarations -/

/-- A whole source. Annotations of a package are allowed only beside its name. -/
def compilationUnit (span : Span) (packageAnnotations : List AnnotationUse)
    (packageName : Option Expression) (imports : List Import) (types : List TypeDeclaration) :
    Except TreeError CompilationUnit := do
  demand (packageName.isSome || packageAnnotations.isEmpty) .compilationUnit "package_name"
  return ⟨span, packageAnnotations, packageName, imports, types⟩

/-- An import, of one name or of all that a package holds. -/
def importDeclaration (span : Span) (isStatic : Bool) (name : Option Expression) :
    Except TreeError Import := do
  let name ← require name .importDeclaration "qualified_identifier"
  return ⟨span, isStatic, name⟩

/-- A declaration with a name. What is extended by an interface is among its super interfaces. -/
def typeDeclaration (kind : Kind) (span : Span) (modifiers : Option Modifiers)
    (name : Option Identifier) (typeParameters : List TypeParameter)
    (superclass : Option Expression) (superInterfaces : List Expression)
    (members : List Member) : Except TreeError TypeDeclaration :=
  match kind with
  | .typeDeclaration typeKind => do
    if typeKind ≠ .classType then
      forbid superclass kind "superclass"
    let name ← require name kind "simple_name"
    return ⟨typeKind, span, modifiers, some name, typeParameters, superclass, superInterfaces,
      members⟩
  | other => .error (.kindMismatch other "ClassTree")

/-- The class of an instance creation or enum constant that has a body: members and nothing
else. -/
def anonymousClass (span : Span) (members : List Member) : TypeDeclaration :=
  ⟨.classType, span, none, none, [], none, [], members⟩

/-- A constant of an enum; with a body it is a class of its own. -/
def enumConstant (span : Span) (modifiers : Option Modifiers) (name : Option Identifier)
    (arguments : List Expression) (body : Option TypeDeclaration) :
    Except TreeError EnumConstant := do
  let name ← require name .enumConstant "simple_name"
  return ⟨span, modifiers, name, arguments, body⟩

/-- A method, a constructor or an element of an annotation type. What is required depends on which of
them it is, and is checked before the name. -/
def method (kind : Kind) (span : Span) (modifiers : Option Modifiers)
    (typeParameters : List TypeParameter) (returnType : Option Expression)
    (name : Option Identifier) (parameters : List VariableDeclaration)
    (throws : List Expression) (body : Option Block) (defaultValue : Option Expression) :
    Except TreeError MethodDeclaration :=
  match kind with
  | .callable callableKind => do
    match callableKind with
    | .constructor =>
      forbid returnType kind "return_type"
      forbid defaultValue kind "default_value"
      demand body.isSome kind "block"
    | .method => demand returnType.isSome kind "return_type"
    let name ← require name kind "simple_name"
    return ⟨callableKind, span, modifiers, typeParameters, returnType, name, parameters, throws,
      body, defaultValue⟩
  | other => .error (.kindMismatch other "MethodTree")

/-- A field, a local variable, a parameter or a resource. -/
def variableDeclaration (span : Span) (modifiers : Option Modifiers) (type : Option Expression)
    (name : Option Identifier) (initializer : Option Expression) :
    Except TreeError VariableDeclaration := do
  let type ← require type .variableDeclaration "type"
  let name ← require name .variableDeclaration "simple_name"
  return ⟨span, modifiers, type, name, initializer⟩

def typeParameter (span : Span) (name : Option Identifier) (bounds : List Expression) :
    Except TreeError TypeParameter := do
  let name ← require name .typeParameter "identifier"
  return ⟨span, name, bounds⟩

/-! ## Statements -/

/-- A block, plain or the static initializer of a type. -/
def block (kind : Kind) (span : Span) (body : List Statement) : Except TreeError Block :=
  match kind with
  | .block blockKind => .ok ⟨blockKind, span, body⟩
  | other => .error (.kindMismatch other "Block")

def labeled (span : Span) (label : Option Identifier) (statement : Option Statement) :
    Except TreeError Statement := do
  let label ← require label .labeledStatement "label"
  let statement ← require statement .labeledStatement "statement"
  return .labeled span label statement

def expressionStatement (span : Span) (expression : Option Expression) :
    Except TreeError ExpressionStatement := do
  let expression ← require expression .expressionStatement "expression"
  return ⟨span, expression⟩

def ifElse (span : Span) (condition : Option Expression)
    (thenStatement elseStatement : Option Statement) : Except TreeError Statement := do
  let condition ← require condition .ifStatement "condition"
  let thenStatement ← require thenStatement .ifStatement "then_statement"
  return .ifElse span condition thenStatement elseStatement

def assertion (span : Span) (condition detail : Option Expression) :
    Except TreeError Statement := do
  let condition ← require condition .assertStatement "condition"
  return .assertion span condition detail

/-- A switch; it need not have cases. -/
def switch (span : Span) (selector : Option Expression) (cases : List CaseGroup) :
    Except TreeError Statement := do
  let selector ← require selector .switchStatement "expression"
  return .switch span selector cases

def caseGroup (span : Span) (labels : List CaseLabel) (body : List Statement) :
    Except TreeError CaseGroup := do
  demand (!labels.isEmpty) .caseGroup "labels"
  return ⟨span, labels, body⟩

def whileLoop (span : Span) (condition : Option Expression) (body : Option Statement) :
    Except TreeError Statement := do
  let condition ← require condition .whileStatement "condition"
  let body ← require body .whileStatement "statement"
  return .whileLoop span condition body

def doLoop (span : Span) (body : Option Statement) (condition : Option Expression) :
    Except TreeError Statement := do
  let body ← require body .doStatement "statement"
  let condition ← require condition .doStatement "condition"
  return .doLoop span body condition

/-- A loop with a head of three parts, each of which may be left out. -/
def forLoop (span : Span) (initializer : List Statement) (condition : Option Expression)
    (update : List ExpressionStatement) (body : Option Statement) :
    Except TreeError Statement := do
  let body ← require body .forStatement "statement"
  return .forLoop span initializer condition update body

/-- A loop over the elements of something. -/
def forEach (span : Span) (element : Option VariableDeclaration) (iterable : Option Expression)
    (body : Option Statement) : Except TreeError Statement := do
  let element ← require element .forEachStatement "variable"
  let iterable ← require iterable .forEachStatement "expression"
  let body ← require body .forEachStatement "statement"
  return .forEach span element iterable body

def throwValue (span : Span) (value : Option Expression) : Except TreeError Statement := do
  let value ← require value .throwStatement "expression"
  return .throwValue span value

def synchronizedOn (span : Span) (lock : Option Expression) (block : Option Block) :
    Except TreeError Statement := do
  let lock ← require lock .synchronizedStatement "expression"
  let block ← require block .synchronizedStatement "block"
  return .synchronizedOn span lock block

/-- A block that is tried. Alone it would do nothing, so it needs resources, catch clauses or a final
block, and the lack of all is reported as a lack of catch clauses. -/
def tryBlock (span : Span) (resources : List VariableDeclaration) (block : Option Block)
    (catches : List CatchClause) (finallyBlock : Option Block) :
    Except TreeError Statement := do
  let block ← require block .tryStatement "block"
  demand (!resources.isEmpty || !catches.isEmpty || finallyBlock.isSome) .tryStatement "catches"
  return .tryBlock span resources block catches finallyBlock

def catchClause (span : Span) (parameter : Option VariableDeclaration) (block : Option Block) :
    Except TreeError CatchClause := do
  let parameter ← require parameter .catchClause "parameter"
  let block ← require block .catchClause "block"
  return ⟨span, parameter, block⟩

end Checked

end JavaSyntax
