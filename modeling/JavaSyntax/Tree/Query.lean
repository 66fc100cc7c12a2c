import JavaSyntax.Tree.Error
import JavaSyntax.Tree.Node

/-!
# Queries — what a node says about itself
-/

namespace JavaSyntax

/-! ## Expressions -/

namespace Expression

/-- The operator of a unary, binary or assignment operation, or the keyword of an `instanceof`. -/
def operatorToken (e : Expression) : Except NotApplicable SyntaxToken :=
  match e with
  | .unary _ _ operator _ => .ok operator
  | .binary _ _ _ operator _ => .ok operator
  | .assignment _ _ _ operator _ => .ok operator
  | .instanceOf _ _ keyword _ => .ok keyword
  | other => .error ⟨other.kind, "operator_token"⟩

/-- The identifier, of an expression that is one. -/
def asIdentifier? : Expression → Option Identifier
  | .identifier name => some name
  | _ => none

/-- The token of a literal. -/
def asLiteral? : Expression → Option SyntaxToken
  | .literal _ token => some token
  | _ => none

/-- The qualifier and the name of a member select. -/
def asMemberSelect? : Expression → Option (Expression × Identifier)
  | .memberSelect _ qualifier name => some (qualifier, name)
  | _ => none

/-- The selected method, the type arguments and the arguments of a call. -/
def asMethodInvocation? : Expression → Option (Expression × List Expression × List Expression)
  | .methodInvocation _ select typeArguments arguments => some (select, typeArguments, arguments)
  | _ => none

/-- The operands of a binary operation and the operator between them. -/
def asBinary? : Expression → Option (Expression × SyntaxToken × Expression)
  | .binary _ _ left operator right => some (left, operator, right)
  | _ => none

/-- The name by which a selected method is called. -/
def methodName? : Expression → Option Identifier
  | .identifier name => some name
  | .memberSelect _ _ name => some name
  | _ => none

/-- What is inside all parentheses around an expression. -/
def skipParentheses : Expression → Expression
  | .parenthesized _ inner => inner.skipParentheses
  | other => other

/-- The dotted text of an identifier, or of a member select whose qualifier has one. -/
def qualifiedName? : Expression → Option String
  | .identifier name => some name.name
  | .memberSelect _ qualifier name =>
    match qualifier.qualifiedName? with
    | some text => some (text ++ "." ++ name.name)
    | none => none
  | _ => none

/-- Whether a parameterized type leaves its arguments to be inferred. -/
def isDiamond : Expression → Bool
  | .parameterizedType _ _ arguments => arguments.isEmpty
  | _ => false

end Expression

/-! ## Statements and members -/

def Statement.asBlock? : Statement → Option Block
  | .block b => some b
  | _ => none

def Statement.asExpressionStatement? : Statement → Option ExpressionStatement
  | .expression s => some s
  | _ => none

def Member.asMethod? : Member → Option MethodDeclaration
  | .method m => some m
  | _ => none

def Member.asVariable? : Member → Option VariableDeclaration
  | .variableDeclaration v => some v
  | _ => none

/-! ## Declarations -/

/-- Whether a modifier is among the keywords. -/
def Modifiers.contains (m : Modifiers) (modifier : Modifier) : Bool :=
  m.keywords.any fun token => token.text == modifier.name

def Modifiers.isEmpty (m : Modifiers) : Bool := m.keywords.isEmpty && m.annotations.isEmpty

def TypeDeclaration.isAnonymous (t : TypeDeclaration) : Bool := t.name.isNone

def CaseLabel.isDefault (l : CaseLabel) : Bool := l.expressions.isEmpty

/-- Whether an import names all members of what it selects from. -/
def Import.isOnDemand (i : Import) : Bool :=
  match i.name with
  | .memberSelect _ _ name => name.name == "*"
  | _ => false

end JavaSyntax
