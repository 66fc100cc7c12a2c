import JavaSyntax.Tree.Query

/-!
# Parts — what a node offers, by name

Each form of node has named parts: the nodes that it holds, the tokens that it keeps, and what
follows from them. The names are those under which `TreeError` reports a missing part, except where
a part is found under a name of its own.

* `Node.nodes_parts`: the nodes in the parts of a node, one part after the other, are its children;
* `Node.tokens_parts`: the tokens that its parts give are those that it keeps.
-/

namespace JavaSyntax

/-- What a node answers under one name. -/
inductive Part where
  | node (node : Node)
  | optional (node : Option Node)
  | nodes (nodes : List Node)
  /-- A node that has one of several forms, and the name of its form. -/
  | variant (form : String) (node : Node)
  | variants (parts : List (String × Node))
  | token (token : Except NotApplicable SyntaxToken)
  | tokens (tokens : List SyntaxToken)
  | text (text : Option String)
  | texts (texts : List String)
  | flag (holds : Bool)

namespace Part

/-- The nodes that a part holds. -/
def held : Part → List Node
  | node n => [n]
  | optional n => n.toList
  | nodes ns => ns
  | variant _ n => [n]
  | variants ps => ps.map Prod.snd
  | token _ | tokens _ | text _ | texts _ | flag _ => []

/-- The tokens that a part gives. -/
def kept : Part → List SyntaxToken
  | token (.ok t) => [t]
  | tokens ts => ts
  | _ => []

/-! ### Parts that hold one type of tree -/

abbrev expression (e : Expression) : Part := node e.node

abbrev expression? (e : Option Expression) : Part := optional (e.map Expression.node)

abbrev expressions (es : List Expression) : Part := nodes (es.map Expression.node)

abbrev statement (s : Statement) : Part := node s.node

abbrev statements (ss : List Statement) : Part := nodes (ss.map Statement.node)

abbrev identifier (i : Identifier) : Part := node i.node

abbrev identifier? (i : Option Identifier) : Part := optional (i.map Identifier.node)

abbrev modifiers? (m : Option Modifiers) : Part := optional (m.map Node.modifiers)

abbrev block? (b : Option Block) : Part := optional (b.map Node.block)

abbrev type? (t : Option TypeDeclaration) : Part := optional (t.map Node.typeDeclaration)

abbrev annotations (uses : List AnnotationUse) : Part := nodes (uses.map Node.annotationUse)

abbrev typeParameters (ps : List TypeParameter) : Part := nodes (ps.map Node.typeParameter)

abbrev variableDeclarations (vs : List VariableDeclaration) : Part :=
  nodes (vs.map Node.variableDeclaration)

end Part

/-- Whether the type of a lambda parameter is left out or written. -/
def LambdaParameter.form : LambdaParameter → String
  | .inferred _ => "inferred"
  | .declared _ => "declared"

/-- Whether the body of a lambda is an expression or a block. -/
def LambdaBody.form : LambdaBody → String
  | .expression _ => "expression"
  | .block _ => "block"

/-! ## The parts of each form -/

def Expression.parts (e : Expression) : List (String × Part) :=
  match e with
  | .identifier i => [("name", .text i.name), ("token", .token (.ok i.token))]
  | .literal _ token => [("value", .text token.text), ("token", .token (.ok token))]
  | .memberSelect _ qualifier name =>
    [("expression", .expression qualifier), ("identifier", .identifier name),
     ("operator_token", .token e.operatorToken)]
  | .methodInvocation _ select typeArguments arguments =>
    [("method_select", .expression select), ("type_arguments", .expressions typeArguments),
     ("arguments", .expressions arguments),
     ("method_name", .text (select.methodName?.map Identifier.name))]
  | .newClass _ enclosing typeArguments type arguments body =>
    [("enclosing_expression", .expression? enclosing),
     ("type_arguments", .expressions typeArguments), ("identifier", .expression type),
     ("arguments", .expressions arguments), ("class_body", .type? body)]
  | .newArray _ elementType dimensions initializers =>
    [("element_type", .expression? elementType), ("dimensions", .expressions dimensions),
     ("initializers", .expressions initializers)]
  | .arrayAccess _ array index =>
    [("expression", .expression array), ("index", .expression index)]
  | .parenthesized _ inner => [("expression", .expression inner)]
  | .typeCast _ type value =>
    [("cast_type", .expression type), ("expression", .expression value)]
  | .instanceOf _ value keyword type =>
    [("expression", .expression value), ("instanceof_keyword", .token (.ok keyword)),
     ("instance_type", .expression type)]
  | .conditional _ condition whenTrue whenFalse =>
    [("condition", .expression condition), ("true_expression", .expression whenTrue),
     ("false_expression", .expression whenFalse)]
  | .unary _ _ operator operand =>
    [("operator_token", .token (.ok operator)), ("expression", .expression operand)]
  | .binary _ _ left operator right =>
    [("left_operand", .expression left), ("operator_token", .token (.ok operator)),
     ("right_operand", .expression right)]
  | .assignment _ _ target operator value =>
    [("variable", .expression target), ("operator_token", .token (.ok operator)),
     ("expression", .expression value)]
  | .lambda _ parameters body =>
    [("parameters", .variants (parameters.map fun p => (p.form, p.node))),
     ("body", .variant body.form body.node)]
  | .methodReference _ target method =>
    [("expression", .expression target), ("method", .identifier method)]
  | .annotationUse use =>
    [("annotation_type", .expression use.type), ("arguments", .expressions use.arguments)]
  | .primitiveType keyword => [("name", .text keyword.text), ("keyword", .token (.ok keyword))]
  | .arrayType _ element => [("element_type", .expression element)]
  | .parameterizedType _ base arguments =>
    [("raw_type", .expression base), ("type_arguments", .expressions arguments),
     ("is_diamond", .flag e.isDiamond)]
  | .wildcard _ _ bound => [("bound", .expression? bound)]
  | .unionType _ alternatives => [("alternatives", .expressions alternatives)]

def Statement.parts : Statement → List (String × Part)
  | .block b => [("body", .statements b.body)]
  | .empty _ => []
  | .labeled _ label body => [("label", .identifier label), ("statement", .statement body)]
  | .expression s => [("expression", .expression s.expression)]
  | .ifElse _ condition thenStatement elseStatement =>
    [("condition", .expression condition), ("then_statement", .statement thenStatement),
     ("else_statement", .optional (elseStatement.map Statement.node))]
  | .assertion _ condition detail =>
    [("condition", .expression condition), ("detail", .expression? detail)]
  | .switch _ selector cases =>
    [("expression", .expression selector), ("cases", .nodes (cases.map Node.caseGroup))]
  | .whileLoop _ condition body =>
    [("condition", .expression condition), ("statement", .statement body)]
  | .doLoop _ body condition =>
    [("statement", .statement body), ("condition", .expression condition)]
  | .forLoop _ initializer condition update body =>
    [("initializer", .statements initializer), ("condition", .expression? condition),
     ("update", .nodes (update.map Node.expressionStatement)), ("statement", .statement body)]
  | .forEach _ element iterable body =>
    [("variable", .node (.variableDeclaration element)), ("expression", .expression iterable),
     ("statement", .statement body)]
  | .breakOut _ label | .continueLoop _ label => [("label", .identifier? label)]
  | .returnValue _ value => [("expression", .expression? value)]
  | .throwValue _ value => [("expression", .expression value)]
  | .synchronizedOn _ lock body =>
    [("expression", .expression lock), ("block", .node (.block body))]
  | .tryBlock _ resources body catches finallyBlock =>
    [("resources", .variableDeclarations resources), ("block", .node (.block body)),
     ("catches", .nodes (catches.map Node.catchClause)), ("finally_block", .block? finallyBlock)]
  | .variableDeclaration v =>
    [("modifiers", .modifiers? v.modifiers), ("var_type", .expression v.type),
     ("simple_name", .identifier v.name), ("initializer", .expression? v.initializer)]
  | .typeDeclaration t =>
    [("modifiers", .modifiers? t.modifiers), ("simple_name", .identifier? t.name),
     ("type_parameters", .typeParameters t.typeParameters),
     ("superclass", .expression? t.superclass),
     ("super_interfaces", .expressions t.superInterfaces),
     ("members", .nodes (t.members.map Member.node)), ("is_anonymous", .flag t.isAnonymous)]

/-- The parts of a node, with their names. -/
def Node.parts : Node → List (String × Part)
  | .compilationUnit u =>
    [("package_annotations", .annotations u.packageAnnotations),
     ("package_name", .expression? u.packageName),
     ("imports", .nodes (u.imports.map Node.importDeclaration)),
     ("types", .nodes (u.types.map Node.typeDeclaration))]
  | .importDeclaration i =>
    [("is_static", .flag i.isStatic), ("qualified_identifier", .expression i.name),
     ("is_on_demand", .flag i.isOnDemand)]
  | .typeDeclaration t => (Statement.typeDeclaration t).parts
  | .enumConstant c =>
    [("modifiers", .modifiers? c.modifiers), ("simple_name", .identifier c.name),
     ("arguments", .expressions c.arguments), ("class_body", .type? c.body)]
  | .method m =>
    [("modifiers", .modifiers? m.modifiers), ("type_parameters", .typeParameters m.typeParameters),
     ("return_type", .expression? m.returnType), ("simple_name", .identifier m.name),
     ("parameters", .variableDeclarations m.parameters), ("throws_clauses", .expressions m.throws),
     ("block", .block? m.body), ("default_value", .expression? m.defaultValue)]
  | .variableDeclaration v => (Statement.variableDeclaration v).parts
  | .typeParameter p => [("identifier", .identifier p.name), ("bounds", .expressions p.bounds)]
  | .modifiers m =>
    [("keywords", .tokens m.keywords), ("annotations", .annotations m.annotations),
     ("contains", .texts ((Modifier.all.filter m.contains).map Modifier.name)),
     ("is_empty", .flag m.isEmpty)]
  | .annotationUse use => (Expression.annotationUse use).parts
  | .block b => (Statement.block b).parts
  | .expressionStatement s => (Statement.expression s).parts
  | .statement s => s.parts
  | .caseGroup g =>
    [("labels", .nodes (g.labels.map Node.caseLabel)), ("body", .statements g.body)]
  | .caseLabel l =>
    [("expressions", .expressions l.expressions), ("is_default", .flag l.isDefault)]
  | .catchClause c =>
    [("parameter", .node (.variableDeclaration c.parameter)), ("block", .node (.block c.block))]
  | .expression e => e.parts

/-! ## Parts and children -/

theorem Expression.nodes_parts (e : Expression) :
    (e.parts.flatMap fun p => p.2.held) = e.slots.flatten := by
  cases e <;> simp [parts, slots, Part.held, slotOf, Function.comp_def]

theorem Statement.nodes_parts (s : Statement) :
    (s.parts.flatMap fun p => p.2.held) = s.slots.flatten := by
  cases s <;> simp [parts, slots, Part.held, slotOf]

/-- The nodes in the parts of a node, one part after the other, are its children. -/
theorem Node.nodes_parts (n : Node) : (n.parts.flatMap fun p => p.2.held) = n.children := by
  cases n with
  | expression e => exact e.nodes_parts
  | statement s => exact s.nodes_parts
  | annotationUse use => exact (Expression.annotationUse use).nodes_parts
  | block b => exact (Statement.block b).nodes_parts
  | expressionStatement s => exact (Statement.expression s).nodes_parts
  | variableDeclaration v => exact (Statement.variableDeclaration v).nodes_parts
  | typeDeclaration t => exact (Statement.typeDeclaration t).nodes_parts
  | _ => simp [parts, children, slots, Part.held, slotOf]

/-! ## Parts and tokens -/

theorem Expression.tokens_parts (e : Expression) :
    (e.parts.flatMap fun p => p.2.kept) = e.tokens := by
  cases e <;> rfl

theorem Statement.tokens_parts (s : Statement) : (s.parts.flatMap fun p => p.2.kept) = [] := by
  cases s <;> rfl

/-- The tokens in the parts of a node are those that it keeps. -/
theorem Node.tokens_parts (n : Node) : (n.parts.flatMap fun p => p.2.kept) = n.tokens := by
  cases n with
  | expression e => exact e.tokens_parts
  | statement s => exact s.tokens_parts
  | modifiers m => simp [parts, tokens, Part.kept]
  | _ => rfl

end JavaSyntax
