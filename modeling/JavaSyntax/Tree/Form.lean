import JavaSyntax.Tree.Node

/-!
# Forms — nodes seen again as what they were made of

A sum such as `Expression` is seen as a node by `Expression.node`. Here a node is seen again as a
member of the sum, if it is one. A node that several sums share is a member of each.

* `Expression.asExpression?_node` and its like: a member that is seen as a node is seen again as
  itself.

The readings are partial and by the form of the node alone. They are needed where a draft is filled from
children that are given as nodes: a slot for an expression takes what is seen again as one.
-/

namespace JavaSyntax

namespace Node

/-- An annotation is an expression too. -/
def asExpression? : Node → Option Expression
  | .expression e => some e
  | .annotationUse use => some (.annotationUse use)
  | _ => none

/-- The four forms that statements share with other sums are statements too. -/
def asStatement? : Node → Option Statement
  | .statement s => some s
  | .block b => some (.block b)
  | .expressionStatement s => some (.expression s)
  | .variableDeclaration v => some (.variableDeclaration v)
  | .typeDeclaration t => some (.typeDeclaration t)
  | _ => none

/-- Of the statements only the empty one is a member. -/
def asMember? : Node → Option Member
  | .block b => some (.block b)
  | .statement (.empty span) => some (.empty span)
  | .variableDeclaration v => some (.variableDeclaration v)
  | .method m => some (.method m)
  | .typeDeclaration t => some (.typeDeclaration t)
  | .enumConstant c => some (.enumConstant c)
  | _ => none

/-- A name is an expression of one form. -/
def asIdentifier? : Node → Option Identifier
  | .expression (.identifier name) => some name
  | _ => none

def asModifiers? : Node → Option Modifiers
  | .modifiers m => some m
  | _ => none

/-- An annotation is one in either view. -/
def asAnnotationUse? : Node → Option AnnotationUse
  | .annotationUse use => some use
  | .expression (.annotationUse use) => some use
  | _ => none

def asTypeParameter? : Node → Option TypeParameter
  | .typeParameter p => some p
  | _ => none

def asVariable? : Node → Option VariableDeclaration
  | .variableDeclaration v => some v
  | _ => none

def asType? : Node → Option TypeDeclaration
  | .typeDeclaration t => some t
  | _ => none

def asImport? : Node → Option Import
  | .importDeclaration i => some i
  | _ => none

def asBlock? : Node → Option Block
  | .block b => some b
  | _ => none

def asExpressionStatement? : Node → Option ExpressionStatement
  | .expressionStatement s => some s
  | _ => none

def asCaseGroup? : Node → Option CaseGroup
  | .caseGroup g => some g
  | _ => none

def asCaseLabel? : Node → Option CaseLabel
  | .caseLabel l => some l
  | _ => none

def asCatchClause? : Node → Option CatchClause
  | .catchClause c => some c
  | _ => none

/-- A name stands for a parameter without its type. -/
def asLambdaParameter? : Node → Option LambdaParameter
  | .variableDeclaration v => some (.declared v)
  | .expression (.identifier name) => some (.inferred name)
  | _ => none

/-- A block or an expression. -/
def asLambdaBody? : Node → Option LambdaBody
  | .block b => some (.block b)
  | .expression e => some (.expression e)
  | .annotationUse use => some (.expression (.annotationUse use))
  | _ => none

end Node

/-! ## There and back

The readings undo the views. They are simp lemmas, so a draft that was made from a tree is read back to
that tree by simplification.
-/

@[simp] theorem Expression.asExpression?_node (e : Expression) :
    e.node.asExpression? = some e := by
  cases e <;> rfl

@[simp] theorem Statement.asStatement?_node (s : Statement) : s.node.asStatement? = some s := by
  cases s <;> rfl

@[simp] theorem Member.asMember?_node (m : Member) : m.node.asMember? = some m := by
  cases m <;> rfl

@[simp] theorem Identifier.asIdentifier?_node (i : Identifier) :
    i.node.asIdentifier? = some i := rfl

@[simp] theorem LambdaParameter.asLambdaParameter?_node (p : LambdaParameter) :
    p.node.asLambdaParameter? = some p := by
  cases p <;> rfl

@[simp] theorem LambdaBody.asLambdaBody?_node (b : LambdaBody) :
    b.node.asLambdaBody? = some b := by
  cases b with
  | expression e => cases e <;> rfl
  | block => rfl

end JavaSyntax
