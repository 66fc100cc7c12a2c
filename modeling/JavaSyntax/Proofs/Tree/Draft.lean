import JavaSyntax.Tree.Checked
import JavaSyntax.Tree.Node

/-!
# Drafts — calls of constructors, as data

A draft is one call of one constructor: parts that may be absent, and a kind that may be wrong. What
holds of all constructors is stated once, over drafts.

* `Draft.make`: the node that the constructor makes, or its refusal;
* `Draft.requirements`: what the constructor asks for, in the order in which it looks;
* `Node.draft`: the draft that a node answers for, each part read back from the node;
* `Obtainable`: trees that are made by constructors all the way down.
-/

namespace JavaSyntax

/-! ## Calls -/

/-- A call of a constructor of an expression or a type. -/
inductive ExpressionDraft where
  | identifier (token : SyntaxToken)
  | literal (kind : Kind) (token : SyntaxToken)
  | memberSelect (span : Span) (qualifier : Option Expression) (name : Option Identifier)
  | methodInvocation (span : Span) (select : Option Expression)
      (typeArguments arguments : List Expression)
  | newClass (span : Span) (enclosing : Option Expression) (typeArguments : List Expression)
      (type : Option Expression) (arguments : List Expression) (body : Option TypeDeclaration)
  | newArray (span : Span) (elementType : Option Expression)
      (dimensions initializers : List Expression)
  | arrayAccess (span : Span) (array index : Option Expression)
  | parenthesized (span : Span) (inner : Option Expression)
  | typeCast (span : Span) (type value : Option Expression)
  | instanceOf (span : Span) (value : Option Expression) (keyword : SyntaxToken)
      (type : Option Expression)
  | conditional (span : Span) (condition whenTrue whenFalse : Option Expression)
  | unary (kind : Kind) (span : Span) (operator : SyntaxToken) (operand : Option Expression)
  | binary (kind : Kind) (span : Span) (left : Option Expression) (operator : SyntaxToken)
      (right : Option Expression)
  | assignment (kind : Kind) (span : Span) (target : Option Expression) (operator : SyntaxToken)
      (value : Option Expression)
  | lambda (span : Span) (parameters : List LambdaParameter) (body : Option LambdaBody)
  | methodReference (span : Span) (target : Option Expression) (method : Option Identifier)
  | primitiveType (keyword : SyntaxToken)
  | arrayType (span : Span) (element : Option Expression)
  | parameterizedType (span : Span) (base : Option Expression) (arguments : List Expression)
  | wildcard (kind : Kind) (span : Span) (bound : Option Expression)
  | unionType (span : Span) (alternatives : List Expression)

/-- A call of a constructor of a statement that no other sum shares. -/
inductive StatementDraft where
  | empty (span : Span)
  | labeled (span : Span) (label : Option Identifier) (statement : Option Statement)
  | ifElse (span : Span) (condition : Option Expression)
      (thenStatement elseStatement : Option Statement)
  | assertion (span : Span) (condition detail : Option Expression)
  | switch (span : Span) (selector : Option Expression) (cases : List CaseGroup)
  | whileLoop (span : Span) (condition : Option Expression) (body : Option Statement)
  | doLoop (span : Span) (body : Option Statement) (condition : Option Expression)
  | forLoop (span : Span) (initializer : List Statement) (condition : Option Expression)
      (update : List ExpressionStatement) (body : Option Statement)
  | forEach (span : Span) (element : Option VariableDeclaration) (iterable : Option Expression)
      (body : Option Statement)
  | breakOut (span : Span) (label : Option Identifier)
  | continueLoop (span : Span) (label : Option Identifier)
  | returnValue (span : Span) (value : Option Expression)
  | throwValue (span : Span) (value : Option Expression)
  | synchronizedOn (span : Span) (lock : Option Expression) (block : Option Block)
  | tryBlock (span : Span) (resources : List VariableDeclaration) (block : Option Block)
      (catches : List CatchClause) (finallyBlock : Option Block)

/-- A call of a constructor. A block that is made without a kind is one of kind `BLOCK`. -/
inductive Draft where
  | compilationUnit (span : Span) (packageAnnotations : List AnnotationUse)
      (packageName : Option Expression) (imports : List Import) (types : List TypeDeclaration)
  | importDeclaration (span : Span) (isStatic : Bool) (name : Option Expression)
  | typeDeclaration (kind : Kind) (span : Span) (modifiers : Option Modifiers)
      (name : Option Identifier) (typeParameters : List TypeParameter)
      (superclass : Option Expression) (superInterfaces : List Expression)
      (members : List Member)
  | anonymousClass (span : Span) (members : List Member)
  | enumConstant (span : Span) (modifiers : Option Modifiers) (name : Option Identifier)
      (arguments : List Expression) (body : Option TypeDeclaration)
  | method (kind : Kind) (span : Span) (modifiers : Option Modifiers)
      (typeParameters : List TypeParameter) (returnType : Option Expression)
      (name : Option Identifier) (parameters : List VariableDeclaration)
      (throws : List Expression) (body : Option Block) (defaultValue : Option Expression)
  | variableDeclaration (span : Span) (modifiers : Option Modifiers) (type : Option Expression)
      (name : Option Identifier) (initializer : Option Expression)
  | typeParameter (span : Span) (name : Option Identifier) (bounds : List Expression)
  | modifiers (span : Span) (keywords : List SyntaxToken) (annotations : List AnnotationUse)
  | annotationUse (span : Span) (type : Option Expression) (arguments : List Expression)
  | block (kind : Kind) (span : Span) (body : List Statement)
  | expressionStatement (span : Span) (expression : Option Expression)
  | caseGroup (span : Span) (labels : List CaseLabel) (body : List Statement)
  | caseLabel (span : Span) (expressions : List Expression)
  | catchClause (span : Span) (parameter : Option VariableDeclaration) (block : Option Block)
  | expression (draft : ExpressionDraft)
  | statement (draft : StatementDraft)

/-! ## Answers -/

def ExpressionDraft.make : ExpressionDraft → Except TreeError Expression
  | identifier token => .ok (.identifier ⟨token⟩)
  | literal kind token => Checked.literal kind token
  | memberSelect span qualifier name => Checked.memberSelect span qualifier name
  | methodInvocation span select typeArguments arguments =>
    Checked.methodInvocation span select typeArguments arguments
  | newClass span enclosing typeArguments type arguments body =>
    Checked.newClass span enclosing typeArguments type arguments body
  | newArray span elementType dimensions initializers =>
    Checked.newArray span elementType dimensions initializers
  | arrayAccess span array index => Checked.arrayAccess span array index
  | parenthesized span inner => Checked.parenthesized span inner
  | typeCast span type value => Checked.typeCast span type value
  | instanceOf span value keyword type => Checked.instanceOf span value keyword type
  | conditional span condition whenTrue whenFalse =>
    Checked.conditional span condition whenTrue whenFalse
  | unary kind span operator operand => Checked.unary kind span operator operand
  | binary kind span left operator right => Checked.binary kind span left operator right
  | assignment kind span target operator value =>
    Checked.assignment kind span target operator value
  | lambda span parameters body => Checked.lambda span parameters body
  | methodReference span target method => Checked.methodReference span target method
  | primitiveType keyword => .ok (.primitiveType keyword)
  | arrayType span element => Checked.arrayType span element
  | parameterizedType span base arguments => Checked.parameterizedType span base arguments
  | wildcard kind span bound => Checked.wildcard kind span bound
  | unionType span alternatives => Checked.unionType span alternatives

def StatementDraft.make : StatementDraft → Except TreeError Statement
  | empty span => .ok (.empty span)
  | labeled span label statement => Checked.labeled span label statement
  | ifElse span condition thenStatement elseStatement =>
    Checked.ifElse span condition thenStatement elseStatement
  | assertion span condition detail => Checked.assertion span condition detail
  | switch span selector cases => Checked.switch span selector cases
  | whileLoop span condition body => Checked.whileLoop span condition body
  | doLoop span body condition => Checked.doLoop span body condition
  | forLoop span initializer condition update body =>
    Checked.forLoop span initializer condition update body
  | forEach span element iterable body => Checked.forEach span element iterable body
  | breakOut span label => .ok (.breakOut span label)
  | continueLoop span label => .ok (.continueLoop span label)
  | returnValue span value => .ok (.returnValue span value)
  | throwValue span value => Checked.throwValue span value
  | synchronizedOn span lock block => Checked.synchronizedOn span lock block
  | tryBlock span resources block catches finallyBlock =>
    Checked.tryBlock span resources block catches finallyBlock

/-- What the constructor answers. -/
def Draft.make : Draft → Except TreeError Node
  | compilationUnit span packageAnnotations packageName imports types =>
    .compilationUnit <$> Checked.compilationUnit span packageAnnotations packageName imports types
  | importDeclaration span isStatic name =>
    .importDeclaration <$> Checked.importDeclaration span isStatic name
  | typeDeclaration kind span mods name typeParameters superclass superInterfaces members =>
    .typeDeclaration <$> Checked.typeDeclaration kind span mods name typeParameters superclass
      superInterfaces members
  | anonymousClass span members => .ok (.typeDeclaration (Checked.anonymousClass span members))
  | enumConstant span mods name arguments body =>
    .enumConstant <$> Checked.enumConstant span mods name arguments body
  | method kind span mods typeParameters returnType name parameters throws body default =>
    .method <$> Checked.method kind span mods typeParameters returnType name parameters throws body
      default
  | variableDeclaration span mods type name initializer =>
    .variableDeclaration <$> Checked.variableDeclaration span mods type name initializer
  | typeParameter span name bounds => .typeParameter <$> Checked.typeParameter span name bounds
  | modifiers span keywords annotations => .ok (.modifiers ⟨span, keywords, annotations⟩)
  | annotationUse span type arguments =>
    .annotationUse <$> Checked.annotationUse span type arguments
  | block kind span body => .block <$> Checked.block kind span body
  | expressionStatement span e => .expressionStatement <$> Checked.expressionStatement span e
  | caseGroup span labels body => .caseGroup <$> Checked.caseGroup span labels body
  | caseLabel span expressions => .ok (.caseLabel ⟨span, expressions⟩)
  | catchClause span parameter body => .catchClause <$> Checked.catchClause span parameter body
  | expression draft => Expression.node <$> draft.make
  | statement draft => Statement.node <$> draft.make

/-! ## Kinds -/

def ExpressionDraft.kind : ExpressionDraft → Kind
  | literal kind .. | unary kind .. | binary kind .. | assignment kind .. | wildcard kind .. => kind
  | identifier .. => .identifier
  | memberSelect .. => .memberSelect
  | methodInvocation .. => .methodInvocation
  | newClass .. => .newClass
  | newArray .. => .newArray
  | arrayAccess .. => .arrayAccess
  | parenthesized .. => .parenthesized
  | typeCast .. => .typeCast
  | instanceOf .. => .instanceOf
  | conditional .. => .conditional
  | lambda .. => .lambda
  | methodReference .. => .methodReference
  | primitiveType .. => .primitiveType
  | arrayType .. => .arrayType
  | parameterizedType .. => .parameterizedType
  | unionType .. => .unionType

def StatementDraft.kind : StatementDraft → Kind
  | empty .. => .emptyStatement
  | labeled .. => .labeledStatement
  | ifElse .. => .ifStatement
  | assertion .. => .assertStatement
  | switch .. => .switchStatement
  | whileLoop .. => .whileStatement
  | doLoop .. => .doStatement
  | forLoop .. => .forStatement
  | forEach .. => .forEachStatement
  | breakOut .. => .breakStatement
  | continueLoop .. => .continueStatement
  | returnValue .. => .returnStatement
  | throwValue .. => .throwStatement
  | synchronizedOn .. => .synchronizedStatement
  | tryBlock .. => .tryStatement

/-- The kind that is passed in, or the only kind that the constructor makes. -/
def Draft.kind : Draft → Kind
  | typeDeclaration kind .. | method kind .. | block kind .. => kind
  | compilationUnit .. => .compilationUnit
  | importDeclaration .. => .importDeclaration
  | anonymousClass .. => .typeDeclaration .classType
  | enumConstant .. => .enumConstant
  | variableDeclaration .. => .variableDeclaration
  | typeParameter .. => .typeParameter
  | modifiers .. => .modifiers
  | annotationUse .. => .annotationUse
  | expressionStatement .. => .expressionStatement
  | caseGroup .. => .caseGroup
  | caseLabel .. => .caseLabel
  | catchClause .. => .catchClause
  | expression draft => draft.kind
  | statement draft => draft.kind

/-! ## Requirements -/

/-- What a constructor asks of its arguments. -/
inductive Requirement where
  /-- The kind is one that nodes of the shape have; refusals call the shape by that name. -/
  | family (shape : Shape) (name : String)
  | needs (met : Bool) (slot : String)
  | excludes (given : Bool) (slot : String)

namespace Requirement

def holds (kind : Kind) : Requirement → Bool
  | family shape _ => decide (kind.shape = shape)
  | needs met _ => met
  | excludes given _ => !given

/-- The refusal of a call that does not meet the requirement. -/
def refusal (kind : Kind) : Requirement → TreeError
  | family _ name => .kindMismatch kind name
  | needs _ slot => .missingChild kind slot
  | excludes _ slot => .unexpectedChild kind slot

end Requirement

open Requirement in
def ExpressionDraft.requirements : ExpressionDraft → List Requirement
  | identifier .. | primitiveType .. => []
  | literal .. => [family .literal "Literal"]
  | memberSelect _ qualifier name =>
    [needs qualifier.isSome "expression", needs name.isSome "identifier"]
  | methodInvocation _ select _ _ => [needs select.isSome "method_select"]
  | newClass _ _ _ type _ _ => [needs type.isSome "identifier"]
  | newArray _ elementType dimensions _ =>
    [needs (elementType.isSome || dimensions.isEmpty) "element_type"]
  | arrayAccess _ array index => [needs array.isSome "expression", needs index.isSome "index"]
  | parenthesized _ inner => [needs inner.isSome "expression"]
  | typeCast _ type value => [needs type.isSome "type", needs value.isSome "expression"]
  | instanceOf _ value _ type => [needs value.isSome "expression", needs type.isSome "type"]
  | conditional _ condition whenTrue whenFalse =>
    [needs condition.isSome "condition", needs whenTrue.isSome "true_expression",
     needs whenFalse.isSome "false_expression"]
  | unary _ _ _ operand => [family .unary "UnaryExpression", needs operand.isSome "expression"]
  | binary _ _ left _ right =>
    [family .binary "BinaryExpression", needs left.isSome "left_operand",
     needs right.isSome "right_operand"]
  | assignment _ _ target _ value =>
    [family .assignment "AssignmentExpression", needs target.isSome "variable",
     needs value.isSome "expression"]
  | lambda _ _ body => [needs body.isSome "body"]
  | methodReference _ target method =>
    [needs target.isSome "expression", needs method.isSome "method"]
  | arrayType _ element => [needs element.isSome "type"]
  | parameterizedType _ base _ => [needs base.isSome "type"]
  | wildcard kind _ bound =>
    [family .wildcard "Wildcard",
     if kind = .wildcard .unbounded then excludes bound.isSome "bound"
     else needs bound.isSome "bound"]
  | unionType _ alternatives => [needs (decide (2 ≤ alternatives.length)) "alternatives"]

open Requirement in
def StatementDraft.requirements : StatementDraft → List Requirement
  | empty .. | breakOut .. | continueLoop .. | returnValue .. => []
  | labeled _ label statement => [needs label.isSome "label", needs statement.isSome "statement"]
  | ifElse _ condition thenStatement _ =>
    [needs condition.isSome "condition", needs thenStatement.isSome "then_statement"]
  | assertion _ condition _ => [needs condition.isSome "condition"]
  | switch _ selector _ => [needs selector.isSome "expression"]
  | whileLoop _ condition body =>
    [needs condition.isSome "condition", needs body.isSome "statement"]
  | doLoop _ body condition => [needs body.isSome "statement", needs condition.isSome "condition"]
  | forLoop _ _ _ _ body => [needs body.isSome "statement"]
  | forEach _ element iterable body =>
    [needs element.isSome "variable", needs iterable.isSome "expression",
     needs body.isSome "statement"]
  | throwValue _ value => [needs value.isSome "expression"]
  | synchronizedOn _ lock block => [needs lock.isSome "expression", needs block.isSome "block"]
  | tryBlock _ resources block catches finallyBlock =>
    [needs block.isSome "block",
     needs (!resources.isEmpty || !catches.isEmpty || finallyBlock.isSome) "catches"]

open Requirement in
/-- What the constructor asks for, in the order in which it looks. -/
def Draft.requirements : Draft → List Requirement
  | compilationUnit _ packageAnnotations packageName _ _ =>
    [needs (packageName.isSome || packageAnnotations.isEmpty) "package_name"]
  | importDeclaration _ _ name => [needs name.isSome "qualified_identifier"]
  | typeDeclaration kind _ _ name _ superclass _ _ =>
    family .typeDeclaration "ClassTree" ::
      ((if kind = .typeDeclaration .classType then []
        else [excludes superclass.isSome "superclass"])
        ++ [needs name.isSome "simple_name"])
  | anonymousClass .. | modifiers .. | caseLabel .. => []
  | enumConstant _ _ name _ _ => [needs name.isSome "simple_name"]
  | method kind _ _ _ returnType name _ _ body default =>
    family .method "MethodTree" ::
      ((if kind = .callable .constructor then
          [excludes returnType.isSome "return_type", excludes default.isSome "default_value",
           needs body.isSome "block"]
        else [needs returnType.isSome "return_type"])
        ++ [needs name.isSome "simple_name"])
  | variableDeclaration _ _ type name _ =>
    [needs type.isSome "type", needs name.isSome "simple_name"]
  | typeParameter _ name _ => [needs name.isSome "identifier"]
  | annotationUse _ type _ => [needs type.isSome "annotation_type"]
  | block .. => [family .block "Block"]
  | expressionStatement _ e => [needs e.isSome "expression"]
  | caseGroup _ labels _ => [needs (!labels.isEmpty) "labels"]
  | catchClause _ parameter body => [needs parameter.isSome "parameter", needs body.isSome "block"]
  | expression draft => draft.requirements
  | statement draft => draft.requirements

/-! ## Reading a node back -/

def Expression.draft : Expression → Draft
  | .identifier i => .expression (.identifier i.token)
  | .literal kind token => .expression (.literal (.literal kind) token)
  | .memberSelect span qualifier name =>
    .expression (.memberSelect span (some qualifier) (some name))
  | .methodInvocation span select typeArguments arguments =>
    .expression (.methodInvocation span (some select) typeArguments arguments)
  | .newClass span enclosing typeArguments type arguments body =>
    .expression (.newClass span enclosing typeArguments (some type) arguments body)
  | .newArray span elementType dimensions initializers =>
    .expression (.newArray span elementType dimensions initializers)
  | .arrayAccess span array index => .expression (.arrayAccess span (some array) (some index))
  | .parenthesized span inner => .expression (.parenthesized span (some inner))
  | .typeCast span type value => .expression (.typeCast span (some type) (some value))
  | .instanceOf span value keyword type =>
    .expression (.instanceOf span (some value) keyword (some type))
  | .conditional span condition whenTrue whenFalse =>
    .expression (.conditional span (some condition) (some whenTrue) (some whenFalse))
  | .unary operation span operator operand =>
    .expression (.unary (.unary operation) span operator (some operand))
  | .binary operation span left operator right =>
    .expression (.binary (.binary operation) span (some left) operator (some right))
  | .assignment operation span target operator value =>
    .expression (.assignment (.assignment operation) span (some target) operator (some value))
  | .lambda span parameters body => .expression (.lambda span parameters (some body))
  | .methodReference span target method =>
    .expression (.methodReference span (some target) (some method))
  | .annotationUse use => .annotationUse use.span (some use.type) use.arguments
  | .primitiveType keyword => .expression (.primitiveType keyword)
  | .arrayType span element => .expression (.arrayType span (some element))
  | .parameterizedType span base arguments =>
    .expression (.parameterizedType span (some base) arguments)
  | .wildcard kind span bound => .expression (.wildcard (.wildcard kind) span bound)
  | .unionType span alternatives => .expression (.unionType span alternatives)

def Statement.draft : Statement → Draft
  | .block b => .block (.block b.kind) b.span b.body
  | .empty span => .statement (.empty span)
  | .labeled span label statement => .statement (.labeled span (some label) (some statement))
  | .expression s => .expressionStatement s.span (some s.expression)
  | .ifElse span condition thenStatement elseStatement =>
    .statement (.ifElse span (some condition) (some thenStatement) elseStatement)
  | .assertion span condition detail => .statement (.assertion span (some condition) detail)
  | .switch span selector cases => .statement (.switch span (some selector) cases)
  | .whileLoop span condition body => .statement (.whileLoop span (some condition) (some body))
  | .doLoop span body condition => .statement (.doLoop span (some body) (some condition))
  | .forLoop span initializer condition update body =>
    .statement (.forLoop span initializer condition update (some body))
  | .forEach span element iterable body =>
    .statement (.forEach span (some element) (some iterable) (some body))
  | .breakOut span label => .statement (.breakOut span label)
  | .continueLoop span label => .statement (.continueLoop span label)
  | .returnValue span value => .statement (.returnValue span value)
  | .throwValue span value => .statement (.throwValue span (some value))
  | .synchronizedOn span lock body => .statement (.synchronizedOn span (some lock) (some body))
  | .tryBlock span resources body catches finallyBlock =>
    .statement (.tryBlock span resources (some body) catches finallyBlock)
  | .variableDeclaration v =>
    .variableDeclaration v.span v.modifiers (some v.type) (some v.name) v.initializer
  | .typeDeclaration t =>
    match t.name with
    | none => .anonymousClass t.span t.members
    | some name =>
      .typeDeclaration (.typeDeclaration t.kind) t.span t.modifiers (some name) t.typeParameters
        t.superclass t.superInterfaces t.members

/-- The call that the parts of a node are the arguments of. -/
def Node.draft : Node → Draft
  | .compilationUnit u =>
    .compilationUnit u.span u.packageAnnotations u.packageName u.imports u.types
  | .importDeclaration i => .importDeclaration i.span i.isStatic (some i.name)
  | .typeDeclaration t => (Statement.typeDeclaration t).draft
  | .enumConstant c => .enumConstant c.span c.modifiers (some c.name) c.arguments c.body
  | .method m =>
    .method (.callable m.kind) m.span m.modifiers m.typeParameters m.returnType (some m.name)
      m.parameters m.throws m.body m.defaultValue
  | .variableDeclaration v => (Statement.variableDeclaration v).draft
  | .typeParameter p => .typeParameter p.span (some p.name) p.bounds
  | .modifiers m => .modifiers m.span m.keywords m.annotations
  | .annotationUse use => (Expression.annotationUse use).draft
  | .block b => (Statement.block b).draft
  | .expressionStatement s => (Statement.expression s).draft
  | .statement s => s.draft
  | .caseGroup g => .caseGroup g.span g.labels g.body
  | .caseLabel l => .caseLabel l.span l.expressions
  | .catchClause c => .catchClause c.span (some c.parameter) (some c.block)
  | .expression e => e.draft

/-! ## Compositions -/

/-- Whether a tree is made by constructors: its root by one call, and in the same way each of the
nodes that were passed to it. -/
inductive Obtainable : Node → Prop where
  | make {d : Draft} {n : Node} (made : d.make = .ok n)
      (below : ∀ c ∈ n.children, Obtainable c) : Obtainable n

end JavaSyntax
