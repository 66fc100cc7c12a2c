/-!
# Kinds — what construct a node is

Each node has exactly one kind. Kinds that share a form of node (all binary operations, all
literals) are one family here, so that a form of node holds a member of its family and nothing
else. Every kind has a name, a place in one fixed order (`Kind.all`) and a category.
-/

namespace JavaSyntax

/-! ## Families -/

/-- What a declared type is. -/
inductive TypeKind where
  | classType | enumType | interfaceType | annotationType
  deriving DecidableEq, Repr

/-- What a member with parameters is. -/
inductive CallableKind where
  | method | constructor
  deriving DecidableEq, Repr

/-- What a braced list of statements is. -/
inductive BlockKind where
  | plain | instanceInitializer | staticInitializer
  deriving DecidableEq, Repr

/-- What a literal denotes. -/
inductive LiteralKind where
  | int | long | float | double | boolean | char | string | null
  deriving DecidableEq, Repr

/-- An operation on one operand. -/
inductive UnaryOperation where
  | postfixIncrement | postfixDecrement | prefixIncrement | prefixDecrement
  | plus | minus | bitwiseComplement | logicalComplement
  deriving DecidableEq, Repr

/-- An operation on two operands that assigns nothing. -/
inductive BinaryOperation where
  | multiply | divide | remainder | plus | minus
  | leftShift | rightShift | unsignedRightShift
  | less | greater | lessOrEqual | greaterOrEqual | equal | notEqual
  | and | xor | or | conditionalAnd | conditionalOr
  deriving DecidableEq, Repr

/-- A simple or compound assignment. -/
inductive AssignmentOperation where
  | simple | multiply | divide | remainder | plus | minus
  | leftShift | rightShift | unsignedRightShift | and | xor | or
  deriving DecidableEq, Repr

/-- How a type wildcard is bounded: not at all, by `extends` or by `super`. -/
inductive WildcardKind where
  | unbounded | upper | lower
  deriving DecidableEq, Repr

/-! ## Kinds -/

/-- The construct that a node represents. -/
inductive Kind where
  | compilationUnit
  | importDeclaration
  | typeDeclaration (kind : TypeKind)
  | enumConstant
  | callable (kind : CallableKind)
  | variableDeclaration
  | typeParameter
  | block (kind : BlockKind)
  | emptyStatement
  | labeledStatement
  | expressionStatement
  | ifStatement
  | assertStatement
  | switchStatement
  | caseGroup
  | caseLabel
  | whileStatement
  | doStatement
  | forStatement
  | forEachStatement
  | breakStatement
  | continueStatement
  | returnStatement
  | throwStatement
  | synchronizedStatement
  | tryStatement
  | catchClause
  | identifier
  | memberSelect
  | methodInvocation
  | newClass
  | newArray
  | arrayAccess
  | parenthesized
  | typeCast
  | instanceOf
  | conditional
  | lambda
  | methodReference
  | literal (kind : LiteralKind)
  | unary (operation : UnaryOperation)
  | binary (operation : BinaryOperation)
  | assignment (operation : AssignmentOperation)
  | primitiveType
  | arrayType
  | parameterizedType
  | wildcard (kind : WildcardKind)
  | unionType
  | modifiers
  | annotationUse
  deriving DecidableEq, Repr

namespace Kind

/-- All kinds in their fixed order. -/
def all : List Kind :=
  [compilationUnit, importDeclaration, typeDeclaration .classType, typeDeclaration .enumType,
   typeDeclaration .interfaceType, typeDeclaration .annotationType, enumConstant,
   callable .method, callable .constructor, variableDeclaration, typeParameter,
   block .plain, block .instanceInitializer, block .staticInitializer,
   emptyStatement, labeledStatement, expressionStatement, ifStatement, assertStatement,
   switchStatement, caseGroup, caseLabel, whileStatement, doStatement, forStatement,
   forEachStatement, breakStatement, continueStatement, returnStatement, throwStatement,
   synchronizedStatement, tryStatement, catchClause,
   identifier, memberSelect, methodInvocation, newClass, newArray, arrayAccess, parenthesized,
   typeCast, instanceOf, conditional, lambda, methodReference,
   literal .int, literal .long, literal .float, literal .double, literal .boolean, literal .char,
   literal .string, literal .null,
   unary .postfixIncrement, unary .postfixDecrement, unary .prefixIncrement,
   unary .prefixDecrement, unary .plus, unary .minus, unary .bitwiseComplement,
   unary .logicalComplement,
   binary .multiply, binary .divide, binary .remainder, binary .plus, binary .minus,
   binary .leftShift, binary .rightShift, binary .unsignedRightShift, binary .less,
   binary .greater, binary .lessOrEqual, binary .greaterOrEqual, binary .equal,
   binary .notEqual, binary .and, binary .xor, binary .or, binary .conditionalAnd,
   binary .conditionalOr,
   assignment .simple, assignment .multiply, assignment .divide, assignment .remainder,
   assignment .plus, assignment .minus, assignment .leftShift, assignment .rightShift,
   assignment .unsignedRightShift, assignment .and, assignment .xor, assignment .or,
   primitiveType, arrayType, parameterizedType, wildcard .unbounded, wildcard .upper,
   wildcard .lower, unionType, modifiers, annotationUse]

/-- The place of a kind in the fixed order. -/
def rank (kind : Kind) : Nat := all.idxOf kind

/-- Kinds sorted by their fixed order; equal ones stay. -/
def sort (kinds : List Kind) : List Kind :=
  kinds.mergeSort fun a b => decide (a.rank ≤ b.rank)

/-! ### Names -/

/-- The name of a kind, in upper case with underscores. -/
def name : Kind → String
  | compilationUnit => "COMPILATION_UNIT"
  | importDeclaration => "IMPORT"
  | typeDeclaration .classType => "CLASS"
  | typeDeclaration .enumType => "ENUM"
  | typeDeclaration .interfaceType => "INTERFACE"
  | typeDeclaration .annotationType => "ANNOTATION_TYPE"
  | enumConstant => "ENUM_CONSTANT"
  | callable .method => "METHOD"
  | callable .constructor => "CONSTRUCTOR"
  | variableDeclaration => "VARIABLE"
  | typeParameter => "TYPE_PARAMETER"
  | block .plain => "BLOCK"
  | block .instanceInitializer => "INITIALIZER"
  | block .staticInitializer => "STATIC_INITIALIZER"
  | emptyStatement => "EMPTY_STATEMENT"
  | labeledStatement => "LABELED_STATEMENT"
  | expressionStatement => "EXPRESSION_STATEMENT"
  | ifStatement => "IF_STATEMENT"
  | assertStatement => "ASSERT_STATEMENT"
  | switchStatement => "SWITCH_STATEMENT"
  | caseGroup => "CASE_GROUP"
  | caseLabel => "CASE_LABEL"
  | whileStatement => "WHILE_STATEMENT"
  | doStatement => "DO_STATEMENT"
  | forStatement => "FOR_STATEMENT"
  | forEachStatement => "FOR_EACH_STATEMENT"
  | breakStatement => "BREAK_STATEMENT"
  | continueStatement => "CONTINUE_STATEMENT"
  | returnStatement => "RETURN_STATEMENT"
  | throwStatement => "THROW_STATEMENT"
  | synchronizedStatement => "SYNCHRONIZED_STATEMENT"
  | tryStatement => "TRY_STATEMENT"
  | catchClause => "CATCH"
  | identifier => "IDENTIFIER"
  | memberSelect => "MEMBER_SELECT"
  | methodInvocation => "METHOD_INVOCATION"
  | newClass => "NEW_CLASS"
  | newArray => "NEW_ARRAY"
  | arrayAccess => "ARRAY_ACCESS_EXPRESSION"
  | parenthesized => "PARENTHESIZED_EXPRESSION"
  | typeCast => "TYPE_CAST"
  | instanceOf => "INSTANCE_OF"
  | conditional => "CONDITIONAL_EXPRESSION"
  | lambda => "LAMBDA_EXPRESSION"
  | methodReference => "METHOD_REFERENCE"
  | literal .int => "INT_LITERAL"
  | literal .long => "LONG_LITERAL"
  | literal .float => "FLOAT_LITERAL"
  | literal .double => "DOUBLE_LITERAL"
  | literal .boolean => "BOOLEAN_LITERAL"
  | literal .char => "CHAR_LITERAL"
  | literal .string => "STRING_LITERAL"
  | literal .null => "NULL_LITERAL"
  | unary .postfixIncrement => "POSTFIX_INCREMENT"
  | unary .postfixDecrement => "POSTFIX_DECREMENT"
  | unary .prefixIncrement => "PREFIX_INCREMENT"
  | unary .prefixDecrement => "PREFIX_DECREMENT"
  | unary .plus => "UNARY_PLUS"
  | unary .minus => "UNARY_MINUS"
  | unary .bitwiseComplement => "BITWISE_COMPLEMENT"
  | unary .logicalComplement => "LOGICAL_COMPLEMENT"
  | binary .multiply => "MULTIPLY"
  | binary .divide => "DIVIDE"
  | binary .remainder => "REMAINDER"
  | binary .plus => "PLUS"
  | binary .minus => "MINUS"
  | binary .leftShift => "LEFT_SHIFT"
  | binary .rightShift => "RIGHT_SHIFT"
  | binary .unsignedRightShift => "UNSIGNED_RIGHT_SHIFT"
  | binary .less => "LESS_THAN"
  | binary .greater => "GREATER_THAN"
  | binary .lessOrEqual => "LESS_THAN_OR_EQUAL_TO"
  | binary .greaterOrEqual => "GREATER_THAN_OR_EQUAL_TO"
  | binary .equal => "EQUAL_TO"
  | binary .notEqual => "NOT_EQUAL_TO"
  | binary .and => "AND"
  | binary .xor => "XOR"
  | binary .or => "OR"
  | binary .conditionalAnd => "CONDITIONAL_AND"
  | binary .conditionalOr => "CONDITIONAL_OR"
  | assignment .simple => "ASSIGNMENT"
  | assignment .multiply => "MULTIPLY_ASSIGNMENT"
  | assignment .divide => "DIVIDE_ASSIGNMENT"
  | assignment .remainder => "REMAINDER_ASSIGNMENT"
  | assignment .plus => "PLUS_ASSIGNMENT"
  | assignment .minus => "MINUS_ASSIGNMENT"
  | assignment .leftShift => "LEFT_SHIFT_ASSIGNMENT"
  | assignment .rightShift => "RIGHT_SHIFT_ASSIGNMENT"
  | assignment .unsignedRightShift => "UNSIGNED_RIGHT_SHIFT_ASSIGNMENT"
  | assignment .and => "AND_ASSIGNMENT"
  | assignment .xor => "XOR_ASSIGNMENT"
  | assignment .or => "OR_ASSIGNMENT"
  | primitiveType => "PRIMITIVE_TYPE"
  | arrayType => "ARRAY_TYPE"
  | parameterizedType => "PARAMETERIZED_TYPE"
  | wildcard .unbounded => "UNBOUNDED_WILDCARD"
  | wildcard .upper => "EXTENDS_WILDCARD"
  | wildcard .lower => "SUPER_WILDCARD"
  | unionType => "UNION_TYPE"
  | modifiers => "MODIFIERS"
  | annotationUse => "ANNOTATION"

/-- The kind of that exact name. -/
def ofName? (text : String) : Option Kind :=
  all.find? fun kind => kind.name == text

end Kind

/-- What a reader is told when a name is none of the listed ones. -/
def unknownNameMessage : String := "Matching variant not found"

/-! ## Categories -/

/-- The broad class of construct that a kind belongs to. -/
inductive Category where
  | declaration | statement | expression | type | other
  deriving DecidableEq, Repr

namespace Category

def all : List Category := [declaration, statement, expression, type, other]

def name : Category → String
  | declaration => "declaration"
  | statement => "statement"
  | expression => "expression"
  | type => "type"
  | other => "other"

/-- The category of that exact name. -/
def ofName? (text : String) : Option Category :=
  all.find? fun category => category.name == text

end Category

namespace Kind

/-- The category of a kind. Case groups, case labels, catch clauses, modifiers and annotations are
in none of the four main ones. -/
def category : Kind → Category
  | compilationUnit | importDeclaration | typeDeclaration _ | enumConstant | callable _
  | variableDeclaration | typeParameter => .declaration
  | block _ | emptyStatement | labeledStatement | expressionStatement | ifStatement
  | assertStatement | switchStatement | whileStatement | doStatement | forStatement
  | forEachStatement | breakStatement | continueStatement | returnStatement | throwStatement
  | synchronizedStatement | tryStatement => .statement
  | identifier | memberSelect | methodInvocation | newClass | newArray | arrayAccess
  | parenthesized | typeCast | instanceOf | conditional | lambda | methodReference
  | literal _ | unary _ | binary _ | assignment _ => .expression
  | primitiveType | arrayType | parameterizedType | wildcard _ | unionType => .type
  | caseGroup | caseLabel | catchClause | modifiers | annotationUse => .other

/-- Whether nodes of this kind can stand where an expression is expected: expressions, types, and
annotations (which are values of annotation elements). -/
def isExpression (kind : Kind) : Bool :=
  kind.category == .expression || kind.category == .type || kind == .annotationUse

/-- Whether the kind is a statement. Local declarations stand among statements but are none. -/
def isStatement (kind : Kind) : Bool := kind.category == .statement

def isType (kind : Kind) : Bool := kind.category == .type

def isLiteral : Kind → Bool
  | literal _ => true
  | _ => false

def isUnary : Kind → Bool
  | unary _ => true
  | _ => false

def isBinary : Kind → Bool
  | binary _ => true
  | _ => false

def isAssignment : Kind → Bool
  | assignment _ => true
  | _ => false

def isWildcard : Kind → Bool
  | wildcard _ => true
  | _ => false

end Kind

end JavaSyntax
