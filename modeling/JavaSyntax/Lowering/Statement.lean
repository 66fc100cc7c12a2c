import JavaSyntax.Lowering.Declaration

/-!
# Statements

A place among statements may hold several: a declaration of several variables makes one statement
for each. A place that holds exactly one, such as the body of a loop, takes the same constructs as
long as they make one statement.
-/

namespace JavaSyntax

namespace Lowering

/-! ## Places among statements -/

/-- `this(x)`, `super(x)` and `outer.super(x)`: the call of a constructor, made a statement. -/
def constructorCall (source : String) (raw : RawNode) : Lowering ExpressionStatement := do
  let object ← optional expression (raw.field? "object")
  let method :=
    match object, raw.field? "constructor" with
    | some outer, some keyword => some (select source outer keyword)
    | none, some keyword => some (.identifier (identifier source keyword))
    | _, none => none
  let types ← typeArguments (raw.field? "type_arguments")
  let values ← arguments (raw.field? "arguments")
  let span :=
    match raw.field? "arguments" with
    | some list => raw.span.through list.span
    | none => raw.span
  let call ← checked (Checked.methodInvocation span method types values)
  return ⟨raw.span, call⟩

/-- The statements that one construct makes in a place that holds any number of them. -/
def statementsOf (source : String) (raw : RawNode) : Lowering (List Statement) :=
  match raw.tag with
  | "local_variable_declaration" => return (← variableDeclarations source raw).map .variableDeclaration
  | "explicit_constructor_invocation" => return [.expression (← constructorCall source raw)]
  | _ =>
    if isTypeDeclaration raw then return [.typeDeclaration (← typeDeclaration raw)]
    else return [← statement raw]

/-- The statements that one child of a block makes: a semicolon alone is the empty statement, and
other tokens make none. -/
def blockEntry (source : String) (child : RawNode) : Lowering (List Statement) :=
  if child.isNamed then statementsOf source child
  else if child.tag == ";" then return [.empty child.span]
  else return []

/-- The statements directly inside a node. -/
def statementList (source : String) (raw : RawNode) : Lowering (List Statement) :=
  gather (blockEntry source) raw.children

/-! ## Parts of statements -/

/-- What is inside the parentheses that some statements need around an expression. -/
def insideParentheses (raw : RawNode) : Option RawNode :=
  if raw.tag == "parenthesized_expression" then raw.namedChildren.head? else some raw

/-- The condition of a branch, loop or switch, without its parentheses. -/
def condition (raw : RawNode) : Lowering (Option Expression) :=
  optional expression ((raw.field? "condition").bind insideParentheses)

/-- An expression that stands for a statement, such as the update of a loop. -/
def bareExpression (raw : RawNode) : Lowering ExpressionStatement :=
  return ⟨raw.span, ← expression raw⟩

/-! ## Loops -/

/-- What one initializer of a `for` declares or does. -/
def forInitializer (source : String) (raw : RawNode) : Lowering (List Statement) :=
  if raw.tag == "local_variable_declaration" then
    return (← variableDeclarations source raw).map .variableDeclaration
  else return [.expression (← bareExpression raw)]

def forLoop (source : String) (raw : RawNode) : Lowering Statement := do
  let initializer ← gather (forInitializer source) (raw.fields "init")
  let condition ← optional expression (raw.field? "condition")
  let update ← each bareExpression (raw.fields "update")
  let body ← optional statement (raw.field? "body")
  checked (Checked.forLoop raw.span initializer condition update body)

def forEachLoop (source : String) (raw : RawNode) : Lowering Statement := do
  let element ← declaredVariable source raw none
  let iterable ← optional expression (raw.field? "value")
  let body ← optional statement (raw.field? "body")
  checked (Checked.forEach raw.span (some element) iterable body)

/-! ## Handling of exceptions -/

/-- A resource of a `try`. One that names an existing variable is refused. -/
def resource (source : String) (raw : RawNode) : Lowering VariableDeclaration :=
  if (raw.field? "type").isNone then unsupported raw
  else declaredVariable source raw (raw.field? "value")

/-- The type of a caught exception; several make a union. -/
def caughtType (raw : RawNode) : Lowering (Option Expression) :=
  match raw.childOfTag? "catch_type" with
  | none => return none
  | some list => do
    let alternatives ← each typeExpression list.namedChildren
    if 1 < alternatives.length then
      return some (← checked (Checked.unionType list.span alternatives))
    else return alternatives.head?

def catchParameter (source : String) (raw : RawNode) : Lowering VariableDeclaration := do
  let modifiers ← modifiersOf source raw
  let caught ← caughtType raw
  checked (Checked.variableDeclaration raw.span modifiers caught
    ((raw.field? "name").map (identifier source)) none)

def catchClause (source : String) (raw : RawNode) : Lowering CatchClause := do
  let parameter ← optional (catchParameter source) (raw.childOfTag? "catch_formal_parameter")
  let body ← optional block (raw.field? "body")
  checked (Checked.catchClause raw.span parameter body)

/-- `try` with or without resources. -/
def tryBlock (source : String) (raw : RawNode) : Lowering Statement := do
  let listed := (raw.field? "resources").map fun list => list.childrenOfTag "resource"
  let resources ← each (resource source) (listed.getD [])
  let body ← optional block (raw.field? "body")
  let catches ← each (catchClause source) (raw.childrenOfTag "catch_clause")
  let finallyBlock ← optional block
    ((raw.childOfTag? "finally_clause").bind fun clause => clause.childOfTag? "block")
  checked (Checked.tryBlock raw.span resources body catches finallyBlock)

/-! ## Switches -/

/-- `case a, b` or `default`. Patterns and guards are refused. -/
def caseLabel (raw : RawNode) : Lowering CaseLabel := do
  let value (child : RawNode) : Lowering Expression :=
    match child.tag with
    | "pattern" | "guard" | "record_pattern" | "type_pattern" => unsupported child
    | _ => expression child
  return ⟨raw.span, ← each value raw.namedChildren⟩

/-- The label or the statements that one child of a group makes. -/
def caseEntry (source : String) (child : RawNode) :
    Lowering (List CaseLabel × List Statement) :=
  if child.tag == "switch_label" then return ([← caseLabel child], [])
  else return ([], ← blockEntry source child)

/-- What a group of labels and statements consists of. -/
def caseGroupBody (source : String) (raw : RawNode) :
    Lowering (List CaseLabel × List Statement) := do
  let entries ← each (caseEntry source) raw.children
  return (entries.flatMap Prod.fst, entries.flatMap Prod.snd)

/-- The groups of a switch from the raw groups, each of which has one label. Labels of groups
without statements are `pending` until a group with statements follows, and join it; those that are
pending at the end of the switch make a group of their own. -/
def caseGroups (pending : Option (Span × List CaseLabel)) :
    List RawNode → Lowering (List CaseGroup)
  | [] =>
    match pending with
    | none => return []
    | some (span, labels) => return [← checked (Checked.caseGroup span labels [])]
  | group :: rest =>
    if group.tag != "switch_block_statement_group" then unsupported group
    else do
      let (labels, body) ← caseGroup group
      let (span, joined) :=
        match pending with
        | some (first, earlier) => (first.through group.span, earlier ++ labels)
        | none => (group.span, labels)
      if body.isEmpty then caseGroups (some (span, joined)) rest
      else do
        let made ← checked (Checked.caseGroup span joined body)
        return made :: (← caseGroups none rest)

/-- A switch whose cases are groups of labels and statements. Arrow cases are refused. -/
def switchStatement (raw : RawNode) : Lowering Statement := do
  let selector ← condition raw
  let groups := (raw.field? "body").map RawNode.namedChildren
  let cases ← caseGroups none (groups.getD [])
  checked (Checked.switch raw.span selector cases)

/-! ## All statements -/

/-- What a construct makes where exactly one statement is wanted. -/
def soleStatement (raw : RawNode) (made : Lowering (List Statement)) : Lowering Statement := do
  match ← made with
  | [only] => return only
  | _ => unsupported raw

/-- What a named statement consists of. -/
def namedStatementBody (source : String) (raw : RawNode) : Lowering Statement :=
  match raw.tag with
  | "block" => return .block ⟨.plain, raw.span, ← statementList source raw⟩
  | "expression_statement" => do
    let value ← optional expression raw.namedChildren.head?
    return .expression (← checked (Checked.expressionStatement raw.span value))
  | "labeled_statement" => do
    let label := raw.namedChildren.head?.map (identifier source)
    let labeled ← optional statement raw.namedChildren[1]?
    checked (Checked.labeled raw.span label labeled)
  | "if_statement" => do
    let test ← condition raw
    let thenStatement ← optional statement (raw.field? "consequence")
    let elseStatement ← optional statement (raw.field? "alternative")
    checked (Checked.ifElse raw.span test thenStatement elseStatement)
  | "while_statement" => do
    let test ← condition raw
    let body ← optional statement (raw.field? "body")
    checked (Checked.whileLoop raw.span test body)
  | "do_statement" => do
    let body ← optional statement (raw.field? "body")
    let test ← condition raw
    checked (Checked.doLoop raw.span body test)
  | "for_statement" => forLoop source raw
  | "enhanced_for_statement" => forEachLoop source raw
  | "break_statement" =>
    return .breakOut raw.span ((raw.childOfTag? "identifier").map (identifier source))
  | "continue_statement" =>
    return .continueLoop raw.span ((raw.childOfTag? "identifier").map (identifier source))
  | "return_statement" =>
    return .returnValue raw.span (← optional expression raw.namedChildren.head?)
  | "throw_statement" => do
    let thrown ← optional expression raw.namedChildren.head?
    checked (Checked.throwValue raw.span thrown)
  | "assert_statement" => do
    let test ← optional expression raw.namedChildren.head?
    let detail ← optional expression raw.namedChildren[1]?
    checked (Checked.assertion raw.span test detail)
  | "synchronized_statement" => do
    let lock ← optional expression
      ((raw.childOfTag? "parenthesized_expression").bind insideParentheses)
    let body ← optional block (raw.field? "body")
    checked (Checked.synchronizedOn raw.span lock body)
  | "try_statement" | "try_with_resources_statement" => tryBlock source raw
  | "switch_expression" => switchStatement raw
  | "local_variable_declaration" | "explicit_constructor_invocation" =>
    soleStatement raw (statementsOf source raw)
  | _ =>
    if isTypeDeclaration raw then return .typeDeclaration (← typeDeclaration raw)
    else unsupported raw

/-- What a statement in a place for one consists of. -/
def statementBody (source : String) (raw : RawNode) : Lowering Statement :=
  if raw.isNamed then namedStatementBody source raw
  else if raw.tag == ";" then return .empty raw.span
  else unsupported raw

end Lowering

end JavaSyntax
