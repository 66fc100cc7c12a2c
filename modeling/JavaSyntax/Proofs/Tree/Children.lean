import JavaSyntax.Tree.Checked
import JavaSyntax.Tree.Node

/-!
# Children — a statement about the children of a node, part by part

What holds of all children of a node holds of the node of each part, and the other way round. There
is one lemma for each form of node; a part that may be absent is asked for as far as it is there, and
a part that repeats in each of its members.

The children of a node are listed slot by slot (`Node.slots`), where an absent part fills no slot and a
list fills as many as it has members. Inductions on trees do not care for slots: they have something for
each part and want it for all children, or they have it for all children and want it for one part. So no
later proof opens `slots`; it rewrites with the lemma of its form, and gets or gives a conjunction over
the parts in the order of their slots. Nodes without children have no condition at all.

* `forall_mem_slotOf`: a slot for a part that may be absent;
* `forall_children_memberSelect` and its like: one form of node each, with `P` for whatever is said.
-/

namespace JavaSyntax

/-- Seen as a node an expression covers what it covers; the use of an annotation is a node of its own
sort, so this is no definition. -/
theorem Expression.span_node (e : Expression) : e.node.span = e.span := by
  cases e <;> rfl

namespace Node

variable {P : Node → Prop} {span : Span}

/-- What may be absent has to satisfy `P` as far as it is there. -/
theorem forall_mem_slotOf {α : Type} {node : α → Node} {part : Option α} :
    (∀ c ∈ slotOf node part, P c) ↔ ∀ a, part = some a → P (node a) := by
  cases part <;> simp [slotOf]

/-! ## Expressions -/

/-- A name is a leaf. -/
theorem forall_children_identifier {i : Identifier} :
    ∀ c ∈ i.node.children, P c := by
  simp [Identifier.node, children, slots, Expression.slots]

/-- A literal is a leaf, whatever its kind. -/
theorem forall_children_literal {kind : LiteralKind} {token : SyntaxToken} :
    ∀ c ∈ (Expression.literal kind token).node.children, P c := by
  simp [Expression.node, children, slots, Expression.slots]

/-- A primitive type is its token, and tokens are no children. -/
theorem forall_children_primitiveType {token : SyntaxToken} :
    ∀ c ∈ (Expression.primitiveType token).node.children, P c := by
  simp [Expression.node, children, slots, Expression.slots]

theorem forall_children_memberSelect {qualifier : Expression} {name : Identifier} :
    (∀ c ∈ (Expression.memberSelect span qualifier name).node.children, P c) ↔
      P qualifier.node ∧ P name.node := by
  simp [Expression.node, children, slots, Expression.slots, or_imp, forall_and]

/-- What is called comes before the type arguments, even where the source has it the other way round. -/
theorem forall_children_methodInvocation {callee : Expression} {types values : List Expression} :
    (∀ c ∈ (Expression.methodInvocation span callee types values).node.children, P c) ↔
      P callee.node ∧ (∀ t ∈ types, P t.node) ∧ ∀ v ∈ values, P v.node := by
  simp [Expression.node, children, slots, Expression.slots, or_imp, forall_and]

/-- Of the five parts of a creation two may be absent and two are lists; the body is a declaration. -/
theorem forall_children_newClass {enclosing : Option Expression} {types : List Expression}
    {type : Expression} {values : List Expression} {body : Option TypeDeclaration} :
    (∀ c ∈ (Expression.newClass span enclosing types type values body).node.children, P c) ↔
      (∀ e, enclosing = some e → P e.node) ∧ (∀ t ∈ types, P t.node) ∧ P type.node ∧
        (∀ v ∈ values, P v.node) ∧ ∀ d, body = some d → P (.typeDeclaration d) := by
  simp [Expression.node, children, slots, Expression.slots, forall_mem_slotOf, or_imp, forall_and]

/-- An array between braces has elements only, the others a type and sizes. -/
theorem forall_children_newArray {type : Option Expression} {sizes elements : List Expression} :
    (∀ c ∈ (Expression.newArray span type sizes elements).node.children, P c) ↔
      (∀ t, type = some t → P t.node) ∧ (∀ s ∈ sizes, P s.node) ∧ ∀ e ∈ elements, P e.node := by
  simp [Expression.node, children, slots, Expression.slots, forall_mem_slotOf, or_imp, forall_and]

theorem forall_children_arrayAccess {array index : Expression} :
    (∀ c ∈ (Expression.arrayAccess span array index).node.children, P c) ↔
      P array.node ∧ P index.node := by
  simp [Expression.node, children, slots, Expression.slots, or_imp, forall_and]

theorem forall_children_parenthesized {inner : Expression} :
    (∀ c ∈ (Expression.parenthesized span inner).node.children, P c) ↔
      P inner.node := by
  simp [Expression.node, children, slots, Expression.slots]

theorem forall_children_typeCast {type value : Expression} :
    (∀ c ∈ (Expression.typeCast span type value).node.children, P c) ↔
      P type.node ∧ P value.node := by
  simp [Expression.node, children, slots, Expression.slots, or_imp, forall_and]

/-- The keyword is a token of the node and no child of it. -/
theorem forall_children_instanceOf {value : Expression} {keyword : SyntaxToken}
    {type : Expression} :
    (∀ c ∈ (Expression.instanceOf span value keyword type).node.children, P c) ↔
      P value.node ∧ P type.node := by
  simp [Expression.node, children, slots, Expression.slots, or_imp, forall_and]

theorem forall_children_conditional {condition whenTrue whenFalse : Expression} :
    (∀ c ∈ (Expression.conditional span condition whenTrue whenFalse).node.children, P c) ↔
      P condition.node ∧ P whenTrue.node ∧ P whenFalse.node := by
  simp [Expression.node, children, slots, Expression.slots, or_imp, forall_and]

/-- The operator is a token of the node and no child of it; this goes for all operations. -/
theorem forall_children_unary {operation : UnaryOperation} {operator : SyntaxToken}
    {operand : Expression} :
    (∀ c ∈ (Expression.unary operation span operator operand).node.children, P c) ↔
      P operand.node := by
  simp [Expression.node, children, slots, Expression.slots]

theorem forall_children_binary {operation : BinaryOperation} {left : Expression}
    {operator : SyntaxToken} {right : Expression} :
    (∀ c ∈ (Expression.binary operation span left operator right).node.children, P c) ↔
      P left.node ∧ P right.node := by
  simp [Expression.node, children, slots, Expression.slots, or_imp, forall_and]

theorem forall_children_assignment {operation : AssignmentOperation} {target : Expression}
    {operator : SyntaxToken} {value : Expression} :
    (∀ c ∈ (Expression.assignment operation span target operator value).node.children, P c) ↔
      P target.node ∧ P value.node := by
  simp [Expression.node, children, slots, Expression.slots, or_imp, forall_and]

/-- Parameters are names or declarations of variables, and are seen as nodes accordingly. -/
theorem forall_children_lambda {parameters : List LambdaParameter} {body : LambdaBody} :
    (∀ c ∈ (Expression.lambda span parameters body).node.children, P c) ↔
      (∀ p ∈ parameters, P p.node) ∧ P body.node := by
  simp [Expression.node, children, slots, Expression.slots, or_imp, forall_and]

theorem forall_children_methodReference {target : Expression} {method : Identifier} :
    (∀ c ∈ (Expression.methodReference span target method).node.children, P c) ↔
      P target.node ∧ P method.node := by
  simp [Expression.node, children, slots, Expression.slots, or_imp, forall_and]

theorem forall_children_arrayType {element : Expression} :
    (∀ c ∈ (Expression.arrayType span element).node.children, P c) ↔
      P element.node := by
  simp [Expression.node, children, slots, Expression.slots]

theorem forall_children_parameterizedType {base : Expression} {types : List Expression} :
    (∀ c ∈ (Expression.parameterizedType span base types).node.children, P c) ↔
      P base.node ∧ ∀ t ∈ types, P t.node := by
  simp [Expression.node, children, slots, Expression.slots, or_imp, forall_and]

/-- A wildcard without bounds is a leaf. -/
theorem forall_children_wildcard {kind : WildcardKind} {bound : Option Expression} :
    (∀ c ∈ (Expression.wildcard kind span bound).node.children, P c) ↔
      ∀ b, bound = some b → P b.node := by
  simp [Expression.node, children, slots, Expression.slots, forall_mem_slotOf]

theorem forall_children_unionType {types : List Expression} :
    (∀ c ∈ (Expression.unionType span types).node.children, P c) ↔
      ∀ t ∈ types, P t.node := by
  simp [Expression.node, children, slots, Expression.slots]

/-- Stated for the node and not for an expression: both are the same node. -/
theorem forall_children_annotationUse {use : AnnotationUse} :
    (∀ c ∈ (Node.annotationUse use).children, P c) ↔
      P use.type.node ∧ ∀ v ∈ use.arguments, P v.node := by
  simp [children, slots, Expression.slots, or_imp, forall_and]

/-! ## Declarations -/

/-- Keywords among modifiers are tokens, so that only annotations are children. -/
theorem forall_children_modifiers {m : Modifiers} :
    (∀ c ∈ (Node.modifiers m).children, P c) ↔
      ∀ a ∈ m.annotations, P (.annotationUse a) := by
  simp [children, slots]

theorem forall_children_typeParameter {p : TypeParameter} :
    (∀ c ∈ (Node.typeParameter p).children, P c) ↔
      P p.name.node ∧ ∀ b ∈ p.bounds, P b.node := by
  simp [children, slots, or_imp, forall_and]

/-- Every variable has a type of its own, also one that shares its declaration with others. -/
theorem forall_children_variableDeclaration {v : VariableDeclaration} :
    (∀ c ∈ (Node.variableDeclaration v).children, P c) ↔
      (∀ m, v.modifiers = some m → P (.modifiers m)) ∧ P v.type.node ∧ P v.name.node ∧
        ∀ e, v.initializer = some e → P e.node := by
  simp [children, slots, Statement.slots, forall_mem_slotOf, or_imp, forall_and]

/-- A method has eight slots, more than any other form. A constructor lacks some of the parts, but not
the slots for them. -/
theorem forall_children_method {m : MethodDeclaration} :
    (∀ c ∈ (Node.method m).children, P c) ↔
      (∀ a, m.modifiers = some a → P (.modifiers a)) ∧
        (∀ p ∈ m.typeParameters, P (.typeParameter p)) ∧
        (∀ t, m.returnType = some t → P t.node) ∧ P m.name.node ∧
        (∀ v ∈ m.parameters, P (.variableDeclaration v)) ∧ (∀ t ∈ m.throws, P t.node) ∧
        (∀ b, m.body = some b → P (.block b)) ∧ ∀ e, m.defaultValue = some e → P e.node := by
  simp [children, slots, forall_mem_slotOf, or_imp, forall_and]

theorem forall_children_enumConstant {e : EnumConstant} :
    (∀ c ∈ (Node.enumConstant e).children, P c) ↔
      (∀ m, e.modifiers = some m → P (.modifiers m)) ∧ P e.name.node ∧
        (∀ v ∈ e.arguments, P v.node) ∧ ∀ d, e.body = some d → P (.typeDeclaration d) := by
  simp [children, slots, forall_mem_slotOf, or_imp, forall_and]

/-- Said of all declarations of types, those without a name included (`forall_children_anonymousClass`).
-/
theorem forall_children_typeDeclaration {d : TypeDeclaration} :
    (∀ c ∈ (Node.typeDeclaration d).children, P c) ↔
      (∀ m, d.modifiers = some m → P (.modifiers m)) ∧ (∀ i, d.name = some i → P i.node) ∧
        (∀ p ∈ d.typeParameters, P (.typeParameter p)) ∧
        (∀ t, d.superclass = some t → P t.node) ∧ (∀ t ∈ d.superInterfaces, P t.node) ∧
        ∀ m ∈ d.members, P m.node := by
  simp [children, slots, Statement.slots, forall_mem_slotOf, or_imp, forall_and]

/-- The body of a creation or of a constant has no header, so its children are its members. -/
theorem forall_children_anonymousClass {ms : List Member} :
    (∀ c ∈ (Node.typeDeclaration (Checked.anonymousClass span ms)).children, P c) ↔
      ∀ m ∈ ms, P m.node := by
  simp [Checked.anonymousClass, children, slots, Statement.slots, slotOf]

theorem forall_children_importDeclaration {i : Import} :
    (∀ c ∈ (Node.importDeclaration i).children, P c) ↔
      P i.name.node := by
  simp [children, slots]

/-- Annotations of the package stand before its name, as children of the unit itself. -/
theorem forall_children_compilationUnit {u : CompilationUnit} :
    (∀ c ∈ (Node.compilationUnit u).children, P c) ↔
      (∀ a ∈ u.packageAnnotations, P (.annotationUse a)) ∧
        (∀ e, u.packageName = some e → P e.node) ∧
        (∀ i ∈ u.imports, P (.importDeclaration i)) ∧ ∀ d ∈ u.types, P (.typeDeclaration d) := by
  simp [children, slots, forall_mem_slotOf, or_imp, forall_and]

/-! ## Statements -/

/-- The statements of a block are its children, without anything around them. -/
theorem forall_children_block {b : Block} :
    (∀ c ∈ (Node.block b).children, P c) ↔
      ∀ s ∈ b.body, P s.node := by
  simp [children, slots, Statement.slots]

/-- A bare semicolon is a leaf. -/
theorem forall_children_empty :
    ∀ c ∈ (Statement.empty span).node.children, P c := by
  simp [Statement.node, children, slots, Statement.slots]

theorem forall_children_expressionStatement {s : ExpressionStatement} :
    (∀ c ∈ (Node.expressionStatement s).children, P c) ↔
      P s.expression.node := by
  simp [children, slots, Statement.slots]

theorem forall_children_labeled {label : Identifier} {s : Statement} :
    (∀ c ∈ (Statement.labeled span label s).node.children, P c) ↔
      P label.node ∧ P s.node := by
  simp [Statement.node, children, slots, Statement.slots, or_imp, forall_and]

/-- A branch is a statement like any other, so it may be a block. -/
theorem forall_children_ifElse {condition : Expression} {thenStatement : Statement}
    {elseStatement : Option Statement} :
    (∀ c ∈ (Statement.ifElse span condition thenStatement elseStatement).node.children, P c) ↔
      P condition.node ∧ P thenStatement.node ∧ ∀ s, elseStatement = some s → P s.node := by
  simp [Statement.node, children, slots, Statement.slots, forall_mem_slotOf, or_imp, forall_and]

theorem forall_children_assertion {condition : Expression} {detail : Option Expression} :
    (∀ c ∈ (Statement.assertion span condition detail).node.children, P c) ↔
      P condition.node ∧ ∀ e, detail = some e → P e.node := by
  simp [Statement.node, children, slots, Statement.slots, forall_mem_slotOf, or_imp, forall_and]

/-- The children of a switch are its cases; what their groups were is not kept. -/
theorem forall_children_switch {selector : Expression} {cases : List CaseGroup} :
    (∀ c ∈ (Statement.switch span selector cases).node.children, P c) ↔
      P selector.node ∧ ∀ g ∈ cases, P (.caseGroup g) := by
  simp [Statement.node, children, slots, Statement.slots, or_imp, forall_and]

theorem forall_children_whileLoop {condition : Expression} {body : Statement} :
    (∀ c ∈ (Statement.whileLoop span condition body).node.children, P c) ↔
      P condition.node ∧ P body.node := by
  simp [Statement.node, children, slots, Statement.slots, or_imp, forall_and]

/-- Unlike in other loops the body comes first. -/
theorem forall_children_doLoop {body : Statement} {condition : Expression} :
    (∀ c ∈ (Statement.doLoop span body condition).node.children, P c) ↔
      P body.node ∧ P condition.node := by
  simp [Statement.node, children, slots, Statement.slots, or_imp, forall_and]

/-- A loop may have several initializers and updates; both are statements. -/
theorem forall_children_forLoop {initializer : List Statement} {condition : Option Expression}
    {update : List ExpressionStatement} {body : Statement} :
    (∀ c ∈ (Statement.forLoop span initializer condition update body).node.children, P c) ↔
      (∀ s ∈ initializer, P s.node) ∧ (∀ e, condition = some e → P e.node) ∧
        (∀ s ∈ update, P (.expressionStatement s)) ∧ P body.node := by
  simp [Statement.node, children, slots, Statement.slots, forall_mem_slotOf, or_imp, forall_and]

theorem forall_children_forEach {element : VariableDeclaration} {iterable : Expression}
    {body : Statement} :
    (∀ c ∈ (Statement.forEach span element iterable body).node.children, P c) ↔
      P (.variableDeclaration element) ∧ P iterable.node ∧ P body.node := by
  simp [Statement.node, children, slots, Statement.slots, or_imp, forall_and]

/-- A label is a name, and with it the only child of a jump. -/
theorem forall_children_breakOut {label : Option Identifier} :
    (∀ c ∈ (Statement.breakOut span label).node.children, P c) ↔
      ∀ i, label = some i → P i.node := by
  simp [Statement.node, children, slots, Statement.slots, forall_mem_slotOf]

theorem forall_children_continueLoop {label : Option Identifier} :
    (∀ c ∈ (Statement.continueLoop span label).node.children, P c) ↔
      ∀ i, label = some i → P i.node := by
  simp [Statement.node, children, slots, Statement.slots, forall_mem_slotOf]

theorem forall_children_returnValue {value : Option Expression} :
    (∀ c ∈ (Statement.returnValue span value).node.children, P c) ↔
      ∀ e, value = some e → P e.node := by
  simp [Statement.node, children, slots, Statement.slots, forall_mem_slotOf]

theorem forall_children_throwValue {value : Expression} :
    (∀ c ∈ (Statement.throwValue span value).node.children, P c) ↔
      P value.node := by
  simp [Statement.node, children, slots, Statement.slots]

theorem forall_children_synchronizedOn {lock : Expression} {body : Block} :
    (∀ c ∈ (Statement.synchronizedOn span lock body).node.children, P c) ↔
      P lock.node ∧ P (.block body) := by
  simp [Statement.node, children, slots, Statement.slots, or_imp, forall_and]

/-- Resources are variables, each with a declaration of its own. -/
theorem forall_children_tryBlock {resources : List VariableDeclaration} {body : Block}
    {catches : List CatchClause} {finallyBlock : Option Block} :
    (∀ c ∈ (Statement.tryBlock span resources body catches finallyBlock).node.children, P c) ↔
      (∀ v ∈ resources, P (.variableDeclaration v)) ∧ P (.block body) ∧
        (∀ k ∈ catches, P (.catchClause k)) ∧ ∀ b, finallyBlock = some b → P (.block b) := by
  simp [Statement.node, children, slots, Statement.slots, forall_mem_slotOf, or_imp, forall_and]

/-- Labels first, then the statements; each label is a node. -/
theorem forall_children_caseGroup {g : CaseGroup} :
    (∀ c ∈ (Node.caseGroup g).children, P c) ↔
      (∀ l ∈ g.labels, P (.caseLabel l)) ∧ ∀ s ∈ g.body, P s.node := by
  simp [children, slots, or_imp, forall_and]

/-- A label `default` has no expressions, and no children then. -/
theorem forall_children_caseLabel {l : CaseLabel} :
    (∀ c ∈ (Node.caseLabel l).children, P c) ↔
      ∀ e ∈ l.expressions, P e.node := by
  simp [children, slots]

/-- Both parts are there whenever there is a clause. -/
theorem forall_children_catchClause {k : CatchClause} :
    (∀ c ∈ (Node.catchClause k).children, P c) ↔
      P (.variableDeclaration k.parameter) ∧ P (.block k.block) := by
  simp [children, slots, or_imp, forall_and]

end Node

end JavaSyntax
