import JavaSyntax.Tree.Basic

/-!
# Nodes — one view of all forms of tree

`Node` is the sum of all that a typed tree is made of. A node has a shape, a kind, a span, tokens,
and slots: the nodes held in each of its parts, in source order. Its children are those of its
slots, one after the other, so an absent part contributes nothing.

* `Node.sizeOf_lt_of_mem_children`: a child is smaller than its parent, so recursion over children
  ends.

The sums that a typed tree is declared with overlap: a block is a statement, a member and the body of a
lambda. As a node it is the same in all of them, which is what makes equality of nodes and traversal
independent of the way by which a node was reached.
-/

namespace JavaSyntax

/-! ## Shapes -/

/-- The forms of node. A visitor has one entry for each. -/
inductive Shape where
  | compilationUnit | importDeclaration | typeDeclaration | enumConstant | method
  | variableDeclaration | typeParameter | modifiers | annotationUse | block | emptyStatement
  | labeledStatement | expressionStatement | ifStatement | assertStatement | switchStatement
  | caseGroup | caseLabel | whileStatement | doStatement | forStatement | forEachStatement
  | breakStatement | continueStatement | returnStatement | throwStatement
  | synchronizedStatement | tryStatement | catchClause | identifier | literal | memberSelect
  | methodInvocation | newClass | newArray | arrayAccess | parenthesized | typeCast | instanceOf
  | conditional | unary | binary | assignment | lambda | methodReference | primitiveType
  | arrayType | parameterizedType | wildcard | unionType
  deriving DecidableEq, Repr

namespace Shape

/-- The name under which a visitor handles the shape. -/
def name : Shape → String
  | compilationUnit => "compilation_unit"
  | importDeclaration => "import"
  | typeDeclaration => "class"
  | enumConstant => "enum_constant"
  | method => "method"
  | variableDeclaration => "variable"
  | typeParameter => "type_parameter"
  | modifiers => "modifiers"
  | annotationUse => "annotation"
  | block => "block"
  | emptyStatement => "empty_statement"
  | labeledStatement => "labeled_statement"
  | expressionStatement => "expression_statement"
  | ifStatement => "if_statement"
  | assertStatement => "assert_statement"
  | switchStatement => "switch_statement"
  | caseGroup => "case_group"
  | caseLabel => "case_label"
  | whileStatement => "while_statement"
  | doStatement => "do_while_statement"
  | forStatement => "for_statement"
  | forEachStatement => "for_each_statement"
  | breakStatement => "break_statement"
  | continueStatement => "continue_statement"
  | returnStatement => "return_statement"
  | throwStatement => "throw_statement"
  | synchronizedStatement => "synchronized_statement"
  | tryStatement => "try_statement"
  | catchClause => "catch"
  | identifier => "identifier"
  | literal => "literal"
  | memberSelect => "member_select_expression"
  | methodInvocation => "method_invocation"
  | newClass => "new_class"
  | newArray => "new_array"
  | arrayAccess => "array_access_expression"
  | parenthesized => "parenthesized"
  | typeCast => "type_cast"
  | instanceOf => "instance_of"
  | conditional => "conditional_expression"
  | unary => "unary_expression"
  | binary => "binary_expression"
  | assignment => "assignment_expression"
  | lambda => "lambda_expression"
  | methodReference => "method_reference"
  | primitiveType => "primitive_type"
  | arrayType => "array_type"
  | parameterizedType => "parameterized_type"
  | wildcard => "wildcard"
  | unionType => "union_type"

end Shape

/-- The shape that the nodes of a kind have. -/
def Kind.shape : Kind → Shape
  | .compilationUnit => .compilationUnit
  | .importDeclaration => .importDeclaration
  | .typeDeclaration _ => .typeDeclaration
  | .enumConstant => .enumConstant
  | .callable _ => .method
  | .variableDeclaration => .variableDeclaration
  | .typeParameter => .typeParameter
  | .block _ => .block
  | .emptyStatement => .emptyStatement
  | .labeledStatement => .labeledStatement
  | .expressionStatement => .expressionStatement
  | .ifStatement => .ifStatement
  | .assertStatement => .assertStatement
  | .switchStatement => .switchStatement
  | .caseGroup => .caseGroup
  | .caseLabel => .caseLabel
  | .whileStatement => .whileStatement
  | .doStatement => .doStatement
  | .forStatement => .forStatement
  | .forEachStatement => .forEachStatement
  | .breakStatement => .breakStatement
  | .continueStatement => .continueStatement
  | .returnStatement => .returnStatement
  | .throwStatement => .throwStatement
  | .synchronizedStatement => .synchronizedStatement
  | .tryStatement => .tryStatement
  | .catchClause => .catchClause
  | .identifier => .identifier
  | .memberSelect => .memberSelect
  | .methodInvocation => .methodInvocation
  | .newClass => .newClass
  | .newArray => .newArray
  | .arrayAccess => .arrayAccess
  | .parenthesized => .parenthesized
  | .typeCast => .typeCast
  | .instanceOf => .instanceOf
  | .conditional => .conditional
  | .lambda => .lambda
  | .methodReference => .methodReference
  | .literal _ => .literal
  | .unary _ => .unary
  | .binary _ => .binary
  | .assignment _ => .assignment
  | .primitiveType => .primitiveType
  | .arrayType => .arrayType
  | .parameterizedType => .parameterizedType
  | .wildcard _ => .wildcard
  | .unionType => .unionType
  | .modifiers => .modifiers
  | .annotationUse => .annotationUse

/-! ## Nodes -/

/-- Any node of a typed tree. The alternatives that are shared by several sums (blocks, declared
variables, annotations and so on) stand for themselves, whatever sum they come from. -/
inductive Node where
  | compilationUnit (unit : CompilationUnit)
  | importDeclaration (declaration : Import)
  | typeDeclaration (declaration : TypeDeclaration)
  | enumConstant (constant : EnumConstant)
  | method (method : MethodDeclaration)
  | variableDeclaration (declared : VariableDeclaration)
  | typeParameter (parameter : TypeParameter)
  | modifiers (modifiers : Modifiers)
  | annotationUse (use : AnnotationUse)
  | block (block : Block)
  | expressionStatement (statement : ExpressionStatement)
  | statement (statement : Statement)
  | caseGroup (group : CaseGroup)
  | caseLabel (label : CaseLabel)
  | catchClause (clause : CatchClause)
  | expression (expression : Expression)

/-- An annotation is a node of its own; any other expression is a node as an expression. -/
def Expression.node : Expression → Node
  | .annotationUse use => .annotationUse use
  | expression => .expression expression

/-- A name is an expression. -/
def Identifier.node (identifier : Identifier) : Node :=
  .expression (.identifier identifier)

/-- Statements that other sums share are nodes of their own. -/
def Statement.node : Statement → Node
  | .block b => .block b
  | .expression statement => .expressionStatement statement
  | .variableDeclaration declared => .variableDeclaration declared
  | .typeDeclaration declaration => .typeDeclaration declaration
  | statement => .statement statement

/-- All members but the empty one are nodes of their own. The empty member is the empty statement. -/
def Member.node : Member → Node
  | .block b => .block b
  | .empty span => .statement (.empty span)
  | .variableDeclaration declared => .variableDeclaration declared
  | .method m => .method m
  | .typeDeclaration declaration => .typeDeclaration declaration
  | .enumConstant constant => .enumConstant constant

/-- A parameter without a type is its name. -/
def LambdaParameter.node : LambdaParameter → Node
  | .inferred name => name.node
  | .declared parameter => .variableDeclaration parameter

/-- The body of a lambda is no node apart from what it consists of. -/
def LambdaBody.node : LambdaBody → Node
  | .expression value => value.node
  | .block b => .block b

/-! ## Kinds -/

/-- The kind of an expression, with the operation or the sort of literal that it has. -/
def Expression.kind : Expression → Kind
  | .identifier _ => .identifier
  | .literal kind _ => .literal kind
  | .memberSelect .. => .memberSelect
  | .methodInvocation .. => .methodInvocation
  | .newClass .. => .newClass
  | .newArray .. => .newArray
  | .arrayAccess .. => .arrayAccess
  | .parenthesized .. => .parenthesized
  | .typeCast .. => .typeCast
  | .instanceOf .. => .instanceOf
  | .conditional .. => .conditional
  | .unary operation .. => .unary operation
  | .binary operation .. => .binary operation
  | .assignment operation .. => .assignment operation
  | .lambda .. => .lambda
  | .methodReference .. => .methodReference
  | .annotationUse _ => .annotationUse
  | .primitiveType _ => .primitiveType
  | .arrayType .. => .arrayType
  | .parameterizedType .. => .parameterizedType
  | .wildcard kind .. => .wildcard kind
  | .unionType .. => .unionType

/-- The kind of a statement. -/
def Statement.kind : Statement → Kind
  | .block b => .block b.kind
  | .empty _ => .emptyStatement
  | .labeled .. => .labeledStatement
  | .expression _ => .expressionStatement
  | .ifElse .. => .ifStatement
  | .assertion .. => .assertStatement
  | .switch .. => .switchStatement
  | .whileLoop .. => .whileStatement
  | .doLoop .. => .doStatement
  | .forLoop .. => .forStatement
  | .forEach .. => .forEachStatement
  | .breakOut .. => .breakStatement
  | .continueLoop .. => .continueStatement
  | .returnValue .. => .returnStatement
  | .throwValue .. => .throwStatement
  | .synchronizedOn .. => .synchronizedStatement
  | .tryBlock .. => .tryStatement
  | .variableDeclaration _ => .variableDeclaration
  | .typeDeclaration declaration => .typeDeclaration declaration.kind

/-- The kind of a member. -/
def Member.kind : Member → Kind
  | .block b => .block b.kind
  | .empty _ => .emptyStatement
  | .variableDeclaration _ => .variableDeclaration
  | .method m => .callable m.kind
  | .typeDeclaration declaration => .typeDeclaration declaration.kind
  | .enumConstant _ => .enumConstant

/-- The kind of a node, which it has whatever sum it comes from. -/
def Node.kind : Node → Kind
  | .compilationUnit _ => .compilationUnit
  | .importDeclaration _ => .importDeclaration
  | .typeDeclaration declaration => .typeDeclaration declaration.kind
  | .enumConstant _ => .enumConstant
  | .method m => .callable m.kind
  | .variableDeclaration _ => .variableDeclaration
  | .typeParameter _ => .typeParameter
  | .modifiers _ => .modifiers
  | .annotationUse _ => .annotationUse
  | .block b => .block b.kind
  | .expressionStatement _ => .expressionStatement
  | .statement s => s.kind
  | .caseGroup _ => .caseGroup
  | .caseLabel _ => .caseLabel
  | .catchClause _ => .catchClause
  | .expression e => e.kind

/-! ## Shapes of nodes -/

def Expression.shape : Expression → Shape
  | .identifier _ => .identifier
  | .literal .. => .literal
  | .memberSelect .. => .memberSelect
  | .methodInvocation .. => .methodInvocation
  | .newClass .. => .newClass
  | .newArray .. => .newArray
  | .arrayAccess .. => .arrayAccess
  | .parenthesized .. => .parenthesized
  | .typeCast .. => .typeCast
  | .instanceOf .. => .instanceOf
  | .conditional .. => .conditional
  | .unary .. => .unary
  | .binary .. => .binary
  | .assignment .. => .assignment
  | .lambda .. => .lambda
  | .methodReference .. => .methodReference
  | .annotationUse _ => .annotationUse
  | .primitiveType _ => .primitiveType
  | .arrayType .. => .arrayType
  | .parameterizedType .. => .parameterizedType
  | .wildcard .. => .wildcard
  | .unionType .. => .unionType

def Statement.shape : Statement → Shape
  | .block _ => .block
  | .empty _ => .emptyStatement
  | .labeled .. => .labeledStatement
  | .expression _ => .expressionStatement
  | .ifElse .. => .ifStatement
  | .assertion .. => .assertStatement
  | .switch .. => .switchStatement
  | .whileLoop .. => .whileStatement
  | .doLoop .. => .doStatement
  | .forLoop .. => .forStatement
  | .forEach .. => .forEachStatement
  | .breakOut .. => .breakStatement
  | .continueLoop .. => .continueStatement
  | .returnValue .. => .returnStatement
  | .throwValue .. => .throwStatement
  | .synchronizedOn .. => .synchronizedStatement
  | .tryBlock .. => .tryStatement
  | .variableDeclaration _ => .variableDeclaration
  | .typeDeclaration _ => .typeDeclaration

/-- The shape of a node: the entry of a visitor that handles it. -/
def Node.shape : Node → Shape
  | .compilationUnit _ => .compilationUnit
  | .importDeclaration _ => .importDeclaration
  | .typeDeclaration _ => .typeDeclaration
  | .enumConstant _ => .enumConstant
  | .method _ => .method
  | .variableDeclaration _ => .variableDeclaration
  | .typeParameter _ => .typeParameter
  | .modifiers _ => .modifiers
  | .annotationUse _ => .annotationUse
  | .block _ => .block
  | .expressionStatement _ => .expressionStatement
  | .statement s => s.shape
  | .caseGroup _ => .caseGroup
  | .caseLabel _ => .caseLabel
  | .catchClause _ => .catchClause
  | .expression e => e.shape

/-! ## Spans -/

def Identifier.span (identifier : Identifier) : Span := identifier.token.span

def Expression.span : Expression → Span
  | .identifier name => name.span
  | .literal _ token => token.span
  | .primitiveType keyword => keyword.span
  | .annotationUse use => use.span
  | .memberSelect span .. | .methodInvocation span .. | .newClass span .. | .newArray span ..
  | .arrayAccess span .. | .parenthesized span .. | .typeCast span .. | .instanceOf span ..
  | .conditional span .. | .unary _ span .. | .binary _ span .. | .assignment _ span ..
  | .lambda span .. | .methodReference span .. | .arrayType span ..
  | .parameterizedType span .. | .wildcard _ span .. | .unionType span .. => span

def Statement.span : Statement → Span
  | .block b => b.span
  | .expression statement => statement.span
  | .variableDeclaration declared => declared.span
  | .typeDeclaration declaration => declaration.span
  | .empty span | .labeled span .. | .ifElse span .. | .assertion span .. | .switch span ..
  | .whileLoop span .. | .doLoop span .. | .forLoop span .. | .forEach span ..
  | .breakOut span .. | .continueLoop span .. | .returnValue span .. | .throwValue span ..
  | .synchronizedOn span .. | .tryBlock span .. => span

def Node.span : Node → Span
  | .compilationUnit unit => unit.span
  | .importDeclaration declaration => declaration.span
  | .typeDeclaration declaration => declaration.span
  | .enumConstant constant => constant.span
  | .method m => m.span
  | .variableDeclaration declared => declared.span
  | .typeParameter parameter => parameter.span
  | .modifiers m => m.span
  | .annotationUse use => use.span
  | .block b => b.span
  | .expressionStatement s => s.span
  | .statement s => s.span
  | .caseGroup group => group.span
  | .caseLabel label => label.span
  | .catchClause clause => clause.span
  | .expression e => e.span

/-! ## Tokens -/

/-- The tokens that an expression keeps, those of its parts left out. -/
def Expression.tokens : Expression → List SyntaxToken
  | .identifier name => [name.token]
  | .literal _ token => [token]
  | .primitiveType keyword => [keyword]
  | .instanceOf _ _ keyword _ => [keyword]
  | .unary _ _ operator _ => [operator]
  | .binary _ _ _ operator _ => [operator]
  | .assignment _ _ _ operator _ => [operator]
  | _ => []

/-- The tokens that a node keeps, those of its children left out. -/
def Node.tokens : Node → List SyntaxToken
  | .modifiers m => m.keywords
  | .expression e => e.tokens
  | _ => []

/-! ## Slots -/

/-- The node of a part that may be absent. -/
def slotOf {α : Type} (node : α → Node) (part : Option α) : List Node :=
  (part.map node).toList

/-- The slots of an expression, in the order in which they are declared. -/
def Expression.slots : Expression → List (List Node)
  | .identifier _ | .literal .. | .primitiveType _ => []
  | .memberSelect _ qualifier name => [[qualifier.node], [name.node]]
  | .methodInvocation _ select typeArguments arguments =>
    [[select.node], typeArguments.map Expression.node, arguments.map Expression.node]
  | .newClass _ enclosing typeArguments type arguments body =>
    [slotOf Expression.node enclosing, typeArguments.map Expression.node, [type.node],
     arguments.map Expression.node, slotOf Node.typeDeclaration body]
  | .newArray _ elementType dimensions initializers =>
    [slotOf Expression.node elementType, dimensions.map Expression.node,
     initializers.map Expression.node]
  | .arrayAccess _ array index => [[array.node], [index.node]]
  | .parenthesized _ inner => [[inner.node]]
  | .typeCast _ type value => [[type.node], [value.node]]
  | .instanceOf _ value _ type => [[value.node], [type.node]]
  | .conditional _ condition whenTrue whenFalse =>
    [[condition.node], [whenTrue.node], [whenFalse.node]]
  | .unary _ _ _ operand => [[operand.node]]
  | .binary _ _ left _ right => [[left.node], [right.node]]
  | .assignment _ _ target _ value => [[target.node], [value.node]]
  | .lambda _ parameters body => [parameters.map LambdaParameter.node, [body.node]]
  | .methodReference _ target method => [[target.node], [method.node]]
  | .annotationUse use => [[use.type.node], use.arguments.map Expression.node]
  | .arrayType _ element => [[element.node]]
  | .parameterizedType _ base arguments => [[base.node], arguments.map Expression.node]
  | .wildcard _ _ bound => [slotOf Expression.node bound]
  | .unionType _ alternatives => [alternatives.map Expression.node]

/-- The slots of a statement. -/
def Statement.slots : Statement → List (List Node)
  | .block b => [b.body.map Statement.node]
  | .empty _ => []
  | .labeled _ label statement => [[label.node], [statement.node]]
  | .expression statement => [[statement.expression.node]]
  | .ifElse _ condition thenStatement elseStatement =>
    [[condition.node], [thenStatement.node], slotOf Statement.node elseStatement]
  | .assertion _ condition detail => [[condition.node], slotOf Expression.node detail]
  | .switch _ selector cases => [[selector.node], cases.map Node.caseGroup]
  | .whileLoop _ condition body => [[condition.node], [body.node]]
  | .doLoop _ body condition => [[body.node], [condition.node]]
  | .forLoop _ initializer condition update body =>
    [initializer.map Statement.node, slotOf Expression.node condition,
     update.map Node.expressionStatement, [body.node]]
  | .forEach _ element iterable body =>
    [[.variableDeclaration element], [iterable.node], [body.node]]
  | .breakOut _ label => [slotOf Identifier.node label]
  | .continueLoop _ label => [slotOf Identifier.node label]
  | .returnValue _ value => [slotOf Expression.node value]
  | .throwValue _ value => [[value.node]]
  | .synchronizedOn _ lock body => [[lock.node], [.block body]]
  | .tryBlock _ resources body catches finallyBlock =>
    [resources.map Node.variableDeclaration, [.block body], catches.map Node.catchClause,
     slotOf Node.block finallyBlock]
  | .variableDeclaration declared =>
    [slotOf Node.modifiers declared.modifiers, [declared.type.node], [declared.name.node],
     slotOf Expression.node declared.initializer]
  | .typeDeclaration declaration =>
    [slotOf Node.modifiers declaration.modifiers, slotOf Identifier.node declaration.name,
     declaration.typeParameters.map Node.typeParameter,
     slotOf Expression.node declaration.superclass,
     declaration.superInterfaces.map Expression.node, declaration.members.map Member.node]

/-- The nodes held in each part of a node, in the order of the parts. -/
def Node.slots : Node → List (List Node)
  | .compilationUnit unit =>
    [unit.packageAnnotations.map Node.annotationUse, slotOf Expression.node unit.packageName,
     unit.imports.map Node.importDeclaration, unit.types.map Node.typeDeclaration]
  | .importDeclaration declaration => [[declaration.name.node]]
  | .typeDeclaration declaration => (Statement.typeDeclaration declaration).slots
  | .enumConstant constant =>
    [slotOf Node.modifiers constant.modifiers, [constant.name.node],
     constant.arguments.map Expression.node, slotOf Node.typeDeclaration constant.body]
  | .method m =>
    [slotOf Node.modifiers m.modifiers, m.typeParameters.map Node.typeParameter,
     slotOf Expression.node m.returnType, [m.name.node],
     m.parameters.map Node.variableDeclaration, m.throws.map Expression.node,
     slotOf Node.block m.body, slotOf Expression.node m.defaultValue]
  | .variableDeclaration declared => (Statement.variableDeclaration declared).slots
  | .typeParameter parameter => [[parameter.name.node], parameter.bounds.map Expression.node]
  | .modifiers m => [m.annotations.map Node.annotationUse]
  | .annotationUse use => (Expression.annotationUse use).slots
  | .block b => (Statement.block b).slots
  | .expressionStatement s => (Statement.expression s).slots
  | .statement s => s.slots
  | .caseGroup group => [group.labels.map Node.caseLabel, group.body.map Statement.node]
  | .caseLabel label => [label.expressions.map Expression.node]
  | .catchClause clause => [[.variableDeclaration clause.parameter], [.block clause.block]]
  | .expression e => e.slots

/-- The nodes directly below a node, in source order of its parts. -/
def Node.children (node : Node) : List Node := node.slots.flatten

/-! ## Children are smaller

Sizes are those of the data. A node that wraps a part is at most one larger than the part (two, for
a name), and a part is smaller than what holds it by more than that. -/

/-- A slot for a part that may be absent holds it if it is there. -/
theorem mem_slotOf {α : Type} {node : α → Node} {part : Option α} {c : Node} :
    c ∈ slotOf node part ↔ ∃ a, part = some a ∧ node a = c := by
  cases part <;> simp [slotOf, eq_comm]

/-- An extent takes up some size, which makes up for the wrapping of a part. -/
theorem Span.sizeOf_pos (s : Span) : 1 ≤ sizeOf s := by
  cases s; simp; omega

theorem Identifier.sizeOf_node_le (i : Identifier) : sizeOf i.node ≤ 2 + sizeOf i := by
  simp [Identifier.node]; omega

theorem Expression.sizeOf_node_le (e : Expression) : sizeOf e.node ≤ 1 + sizeOf e := by
  cases e <;> simp [Expression.node]

theorem Statement.sizeOf_node_le (s : Statement) : sizeOf s.node ≤ 1 + sizeOf s := by
  cases s <;> simp [Statement.node]

theorem Member.sizeOf_node_le (m : Member) : sizeOf m.node ≤ 1 + sizeOf m := by
  cases m <;> simp [Member.node]

theorem LambdaParameter.sizeOf_node_le (p : LambdaParameter) : sizeOf p.node ≤ 1 + sizeOf p := by
  cases p with
  | inferred i => have := i.sizeOf_node_le; simp [LambdaParameter.node]; omega
  | declared v => simp [LambdaParameter.node]

theorem LambdaBody.sizeOf_node_le (b : LambdaBody) : sizeOf b.node ≤ 1 + sizeOf b := by
  cases b with
  | expression e => have := e.sizeOf_node_le; simp [LambdaBody.node]; omega
  | block v => simp [LambdaBody.node]

/-- A node in a slot that is a list is smaller than the list, up to the wrapping `k`. -/
theorem sizeOf_lt_of_mem_map {α : Type} [SizeOf α] {node : α → Node} {k : Nat}
    (hk : ∀ a, sizeOf (node a) ≤ k + sizeOf a) {parts : List α} {c : Node}
    (h : c ∈ parts.map node) : sizeOf c < k + sizeOf parts := by
  obtain ⟨a, ha, rfl⟩ := List.mem_map.1 h
  have := hk a
  have := List.sizeOf_lt_of_mem ha
  omega

/-- A node in a slot that may be empty is smaller than the slot, up to the wrapping `k`. -/
theorem sizeOf_lt_of_mem_slotOf {α : Type} [SizeOf α] {node : α → Node} {k : Nat}
    (hk : ∀ a, sizeOf (node a) ≤ k + sizeOf a) {part : Option α} {c : Node}
    (h : c ∈ slotOf node part) : sizeOf c < k + sizeOf part := by
  obtain ⟨a, rfl, rfl⟩ := mem_slotOf.1 h
  have := hk a
  simp; omega

/-- A child is smaller than its parent. -/
theorem Node.sizeOf_lt_of_mem_children {n c : Node} (h : c ∈ n.children) :
    sizeOf c < sizeOf n := by
  have hp := Span.sizeOf_pos
  have hi := Identifier.sizeOf_node_le
  have he := Expression.sizeOf_node_le
  have hs := Statement.sizeOf_node_le
  have hb := LambdaBody.sizeOf_node_le
  have expressions := @sizeOf_lt_of_mem_map _ _ _ _ Expression.sizeOf_node_le
  have statements := @sizeOf_lt_of_mem_map _ _ _ _ Statement.sizeOf_node_le
  have members := @sizeOf_lt_of_mem_map _ _ _ _ Member.sizeOf_node_le
  have parameters := @sizeOf_lt_of_mem_map _ _ _ _ LambdaParameter.sizeOf_node_le
  have annotations := @sizeOf_lt_of_mem_map _ _ Node.annotationUse 1 (by simp)
  have typeParameters := @sizeOf_lt_of_mem_map _ _ Node.typeParameter 1 (by simp)
  have declarations := @sizeOf_lt_of_mem_map _ _ Node.variableDeclaration 1 (by simp)
  have groups := @sizeOf_lt_of_mem_map _ _ Node.caseGroup 1 (by simp)
  have labels := @sizeOf_lt_of_mem_map _ _ Node.caseLabel 1 (by simp)
  have clauses := @sizeOf_lt_of_mem_map _ _ Node.catchClause 1 (by simp)
  have updates := @sizeOf_lt_of_mem_map _ _ Node.expressionStatement 1 (by simp)
  have imports := @sizeOf_lt_of_mem_map _ _ Node.importDeclaration 1 (by simp)
  have types := @sizeOf_lt_of_mem_map _ _ Node.typeDeclaration 1 (by simp)
  have expression := @sizeOf_lt_of_mem_slotOf _ _ _ _ Expression.sizeOf_node_le
  have statement := @sizeOf_lt_of_mem_slotOf _ _ _ _ Statement.sizeOf_node_le
  have name := @sizeOf_lt_of_mem_slotOf _ _ _ _ Identifier.sizeOf_node_le
  have modifiers := @sizeOf_lt_of_mem_slotOf _ _ Node.modifiers 1 (by simp)
  have block := @sizeOf_lt_of_mem_slotOf _ _ Node.block 1 (by simp)
  have type := @sizeOf_lt_of_mem_slotOf _ _ Node.typeDeclaration 1 (by simp)
  -- for each form, a child is in one of its slots, and one of the facts above is about that slot
  cases n with
  | expression e =>
    cases e
    case annotationUse use =>
      cases use
      simp [Node.children, Node.slots, Expression.slots, -List.mem_map] at h ⊢
      grind only
    all_goals
      simp [Node.children, Node.slots, Expression.slots, -List.mem_map] at h ⊢ <;> grind only
  | statement s =>
    cases s
    case block r | expression r | variableDeclaration r | typeDeclaration r =>
      cases r
      simp [Node.children, Node.slots, Statement.slots, -List.mem_map] at h ⊢
      grind only
    all_goals
      simp [Node.children, Node.slots, Statement.slots, -List.mem_map] at h ⊢ <;>
        grind only [Node.variableDeclaration.sizeOf_spec, Node.block.sizeOf_spec]
  | _ r =>
    cases r
    simp [Node.children, Node.slots, Statement.slots, Expression.slots, -List.mem_map] at h ⊢
    grind only [Node.variableDeclaration.sizeOf_spec, Node.block.sizeOf_spec]

end JavaSyntax
