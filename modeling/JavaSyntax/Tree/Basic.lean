import JavaSyntax.Kind
import JavaSyntax.Modifier
import JavaSyntax.Text.Span

/-!
# Typed trees — the nodes of a Java syntax tree

One type per class of construct. A part that every node of a form has is a plain field, a part that
may be absent is an `Option`, and a part that repeats is a `List`, in source order. Types are
expressions: a class type is an identifier or a member select, and only types with a form of their
own have a constructor. Which kinds a node may have is decided by its family of kinds; the rules
that tie several parts together are those of `JavaSyntax.Checked`.
-/

namespace JavaSyntax

/-- A simple name. -/
structure Identifier where
  token : SyntaxToken
  deriving DecidableEq, Repr

def Identifier.name (identifier : Identifier) : String := identifier.token.text

mutual

/-- An expression, a type, or an annotation that stands as a value. -/
inductive Expression where
  | identifier (name : Identifier)
  | literal (kind : LiteralKind) (token : SyntaxToken)
  /-- `qualifier.name` -/
  | memberSelect (span : Span) (qualifier : Expression) (name : Identifier)
  /-- `select<typeArguments>(arguments)` -/
  | methodInvocation (span : Span) (select : Expression) (typeArguments : List Expression)
      (arguments : List Expression)
  /-- `enclosing.new <typeArguments> type(arguments) body` -/
  | newClass (span : Span) (enclosing : Option Expression) (typeArguments : List Expression)
      (type : Expression) (arguments : List Expression) (body : Option TypeDeclaration)
  /-- An array by its sizes, by its elements, or elements alone without a type. -/
  | newArray (span : Span) (elementType : Option Expression) (dimensions : List Expression)
      (initializers : List Expression)
  | arrayAccess (span : Span) (array : Expression) (index : Expression)
  | parenthesized (span : Span) (inner : Expression)
  | typeCast (span : Span) (type : Expression) (value : Expression)
  | instanceOf (span : Span) (value : Expression) (keyword : SyntaxToken) (type : Expression)
  | conditional (span : Span) (condition : Expression) (whenTrue : Expression)
      (whenFalse : Expression)
  | unary (operation : UnaryOperation) (span : Span) (operator : SyntaxToken)
      (operand : Expression)
  | binary (operation : BinaryOperation) (span : Span) (left : Expression)
      (operator : SyntaxToken) (right : Expression)
  | assignment (operation : AssignmentOperation) (span : Span) (target : Expression)
      (operator : SyntaxToken) (value : Expression)
  | lambda (span : Span) (parameters : List LambdaParameter) (body : LambdaBody)
  /-- `target::method` -/
  | methodReference (span : Span) (target : Expression) (method : Identifier)
  | annotationUse (use : AnnotationUse)
  | primitiveType (keyword : SyntaxToken)
  | arrayType (span : Span) (element : Expression)
  /-- `base<arguments>`; no arguments are the diamond. -/
  | parameterizedType (span : Span) (base : Expression) (arguments : List Expression)
  | wildcard (kind : WildcardKind) (span : Span) (bound : Option Expression)
  | unionType (span : Span) (alternatives : List Expression)

/-- A parameter of a lambda, with its type left out or written. -/
inductive LambdaParameter where
  | inferred (name : Identifier)
  | declared (parameter : VariableDeclaration)

inductive LambdaBody where
  | expression (value : Expression)
  | block (block : Block)

/-- `@type(arguments)` -/
structure AnnotationUse where
  span : Span
  type : Expression
  arguments : List Expression

/-- The keywords and annotations before a declaration. -/
structure Modifiers where
  span : Span
  keywords : List SyntaxToken
  annotations : List AnnotationUse

/-- A type parameter and its bounds. -/
structure TypeParameter where
  span : Span
  name : Identifier
  bounds : List Expression

/-- One field, local variable, parameter or resource. -/
structure VariableDeclaration where
  span : Span
  modifiers : Option Modifiers
  type : Expression
  name : Identifier
  initializer : Option Expression

/-- A method, a constructor, or an element of an annotation type. -/
structure MethodDeclaration where
  kind : CallableKind
  span : Span
  modifiers : Option Modifiers
  typeParameters : List TypeParameter
  returnType : Option Expression
  name : Identifier
  parameters : List VariableDeclaration
  throws : List Expression
  body : Option Block
  defaultValue : Option Expression

/-- A class, enum, interface or annotation type. A class without a name is the body of an instance
creation or of an enum constant. -/
structure TypeDeclaration where
  kind : TypeKind
  span : Span
  modifiers : Option Modifiers
  name : Option Identifier
  typeParameters : List TypeParameter
  superclass : Option Expression
  superInterfaces : List Expression
  members : List Member

/-- A constant of an enum, with the body of its own class if it has one. -/
structure EnumConstant where
  span : Span
  modifiers : Option Modifiers
  name : Identifier
  arguments : List Expression
  body : Option TypeDeclaration

/-- What a type body holds. -/
inductive Member where
  | block (block : Block)
  | empty (span : Span)
  | variableDeclaration (declared : VariableDeclaration)
  | method (method : MethodDeclaration)
  | typeDeclaration (declaration : TypeDeclaration)
  | enumConstant (constant : EnumConstant)

/-- A braced list of statements, or an initializer of a type. -/
structure Block where
  kind : BlockKind
  span : Span
  body : List Statement

structure ExpressionStatement where
  span : Span
  expression : Expression

/-- A statement, or a declaration that stands among statements. -/
inductive Statement where
  | block (block : Block)
  | empty (span : Span)
  | labeled (span : Span) (label : Identifier) (statement : Statement)
  | expression (statement : ExpressionStatement)
  | ifElse (span : Span) (condition : Expression) (thenStatement : Statement)
      (elseStatement : Option Statement)
  | assertion (span : Span) (condition : Expression) (detail : Option Expression)
  | switch (span : Span) (selector : Expression) (cases : List CaseGroup)
  | whileLoop (span : Span) (condition : Expression) (body : Statement)
  | doLoop (span : Span) (body : Statement) (condition : Expression)
  | forLoop (span : Span) (initializer : List Statement) (condition : Option Expression)
      (update : List ExpressionStatement) (body : Statement)
  | forEach (span : Span) (element : VariableDeclaration) (iterable : Expression)
      (body : Statement)
  | breakOut (span : Span) (label : Option Identifier)
  | continueLoop (span : Span) (label : Option Identifier)
  | returnValue (span : Span) (value : Option Expression)
  | throwValue (span : Span) (value : Expression)
  | synchronizedOn (span : Span) (lock : Expression) (block : Block)
  | tryBlock (span : Span) (resources : List VariableDeclaration) (block : Block)
      (catches : List CatchClause) (finallyBlock : Option Block)
  | variableDeclaration (declared : VariableDeclaration)
  | typeDeclaration (declaration : TypeDeclaration)

/-- The labels of a switch that lead to the same statements, and those statements. -/
structure CaseGroup where
  span : Span
  labels : List CaseLabel
  body : List Statement

/-- `case a, b:`, or `default:` with no expression. -/
structure CaseLabel where
  span : Span
  expressions : List Expression

structure CatchClause where
  span : Span
  parameter : VariableDeclaration
  block : Block

end

/-- `import static? name;` -/
structure Import where
  span : Span
  isStatic : Bool
  name : Expression

/-- A whole source file. -/
structure CompilationUnit where
  span : Span
  packageAnnotations : List AnnotationUse
  packageName : Option Expression
  imports : List Import
  types : List TypeDeclaration

end JavaSyntax
