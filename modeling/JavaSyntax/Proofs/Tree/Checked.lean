import JavaSyntax.Tree.Checked
import Mathlib.Logic.Basic

/-!
# Checked — when a node is made

For each form of node, the arguments from which `JavaSyntax.Checked` makes one, and the node that it
makes: what is asked for is there, what is excluded is not, and the parts are kept as they are. Later
proofs read these and never look into a constructor.

Every lemma has one form. On the left a construction succeeds with a node; on the right stand the parts
that it was given, each of them named as it is in the node, and what was required besides. The right
side is a conjunction under existentials, so that a proof takes it apart with one pattern, and an
equation of the node comes last, so that `rfl` in that pattern replaces the node everywhere. Refusals
are not listed: which requirement is reported first is the matter of `JavaSyntax.Requirement`.

* `require_eq_ok`, `forbid_eq_ok`, `demand_eq_ok`: the three checks of which all constructors consist;
* `unary_eq_ok` and its like: a constructor that is given a kind also tells which operation it is.
-/

namespace JavaSyntax

namespace Checked

/-! ## Requirements -/

section

variable {α β ε : Type}

/-- A check after a check succeeds exactly if both do, the second with what the first gave. -/
@[simp] theorem bind_eq_ok {x : Except ε α} {f : α → Except ε β} {b : β} :
    (x >>= f) = .ok b ↔ ∃ a, x = .ok a ∧ f a = .ok b := by
  cases x with
  | error e => exact ⟨nofun, fun ⟨_, h, _⟩ => nomatch h⟩
  | ok a => exact ⟨fun h => ⟨a, rfl, h⟩, fun ⟨_, rfl, h⟩ => h⟩

/-- What is put together after the last check is put together of what that check gave. -/
@[simp] theorem map_eq_ok {x : Except ε α} {f : α → β} {b : β} :
    f <$> x = .ok b ↔ ∃ a, x = .ok a ∧ f a = b := by
  cases x with
  | error e => exact ⟨nofun, fun ⟨_, h, _⟩ => nomatch h⟩
  | ok a => exact ⟨fun h => ⟨a, rfl, Except.ok.inj h⟩, fun ⟨_, rfl, h⟩ => congrArg _ h⟩

/-- A part that is asked for is there, and is the part that the node gets. -/
@[simp] theorem require_eq_ok {part : Option α} {kind : Kind} {slot : String} {a : α} :
    require part kind slot = .ok a ↔ part = some a := by
  cases part <;> simp [require]

/-- A part that is excluded is absent. -/
@[simp] theorem forbid_eq_ok {part : Option α} {kind : Kind} {slot : String} {u : Unit} :
    forbid part kind slot = .ok u ↔ part = none := by
  cases part <;> simp [forbid]

/-- A demand on several parts at once succeeds exactly if it holds; no part comes out of it. -/
@[simp] theorem demand_eq_ok {holds : Bool} {kind : Kind} {slot : String} {u : Unit} :
    demand holds kind slot = .ok u ↔ holds = true := by
  cases holds <;> simp [demand]

end

variable {kind : Kind} {span : Span} {e : Expression} {s : Statement}

/-! ## Names, literals and operations -/

/-- A selection needs both the qualifier and the name. -/
theorem memberSelect_eq_ok {qualifier : Option Expression} {name : Option Identifier} :
    memberSelect span qualifier name = .ok e ↔
      ∃ q, qualifier = some q ∧ ∃ n, name = some n ∧ .memberSelect span q n = e := by
  simp [memberSelect]

theorem arrayAccess_eq_ok {array index : Option Expression} :
    arrayAccess span array index = .ok e ↔
      ∃ a, array = some a ∧ ∃ i, index = some i ∧ .arrayAccess span a i = e := by
  simp [arrayAccess]

theorem parenthesized_eq_ok {inner : Option Expression} :
    parenthesized span inner = .ok e ↔
      ∃ i, inner = some i ∧ .parenthesized span i = e := by
  simp [parenthesized]

theorem typeCast_eq_ok {type value : Option Expression} :
    typeCast span type value = .ok e ↔
      ∃ t, type = some t ∧ ∃ v, value = some v ∧ .typeCast span t v = e := by
  simp [typeCast]

theorem instanceOf_eq_ok {value : Option Expression} {keyword : SyntaxToken} {type : Option Expression} :
    instanceOf span value keyword type = .ok e ↔
      ∃ v, value = some v ∧ ∃ t, type = some t ∧ .instanceOf span v keyword t = e := by
  simp [instanceOf]

/-- Of the three parts none may be missing; the order is that in which they are asked for. -/
theorem conditional_eq_ok {condition whenTrue whenFalse : Option Expression} :
    conditional span condition whenTrue whenFalse = .ok e ↔
      ∃ c, condition = some c ∧ ∃ t, whenTrue = some t ∧ ∃ f, whenFalse = some f ∧
        .conditional span c t f = e := by
  simp [conditional]

/-- An operation is made of its kind, so the kind must be that of a unary operation. -/
theorem unary_eq_ok {operator : SyntaxToken} {operand : Option Expression} :
    unary kind span operator operand = .ok e ↔
      ∃ operation, kind = .unary operation ∧ ∃ o, operand = some o ∧
        .unary operation span operator o = e := by
  unfold unary
  split
  · simp
  -- every other kind falls through the match, and no operation has it
  · rename_i h
    simp only [reduceCtorEq, false_iff]
    rintro ⟨operation, rfl, -⟩
    exact h _ rfl

/-- Like `unary_eq_ok`, with two operands. -/
theorem binary_eq_ok {left : Option Expression} {operator : SyntaxToken} {right : Option Expression} :
    binary kind span left operator right = .ok e ↔
      ∃ operation, kind = .binary operation ∧ ∃ l, left = some l ∧ ∃ r, right = some r ∧
        .binary operation span l operator r = e := by
  unfold binary
  split
  · simp
  · rename_i h
    simp only [reduceCtorEq, false_iff]
    rintro ⟨operation, rfl, -⟩
    exact h _ rfl

/-- Like `binary_eq_ok`: a simple assignment and those with an operation have one constructor. -/
theorem assignment_eq_ok {target : Option Expression} {operator : SyntaxToken}
    {value : Option Expression} :
    assignment kind span target operator value = .ok e ↔
      ∃ operation, kind = .assignment operation ∧ ∃ t, target = some t ∧ ∃ v, value = some v ∧
        .assignment operation span t operator v = e := by
  unfold assignment
  split
  · simp
  · rename_i h
    simp only [reduceCtorEq, false_iff]
    rintro ⟨operation, rfl, -⟩
    exact h _ rfl

/-! ## Calls, creations and lambdas -/

/-- A call keeps its lists as they are: only what is called can be missing. -/
theorem methodInvocation_eq_ok {select : Option Expression} {typeArguments arguments : List Expression} :
    methodInvocation span select typeArguments arguments = .ok e ↔
      ∃ s, select = some s ∧ .methodInvocation span s typeArguments arguments = e := by
  simp [methodInvocation]

/-- Of the five parts of a creation only the type has to be there. -/
theorem newClass_eq_ok {enclosing : Option Expression} {typeArguments : List Expression}
    {type : Option Expression} {arguments : List Expression} {body : Option TypeDeclaration} :
    newClass span enclosing typeArguments type arguments body = .ok e ↔
      ∃ t, type = some t ∧ .newClass span enclosing typeArguments t arguments body = e := by
  simp [newClass]

/-- An array between braces has no element type, and then it has no dimensions either. -/
theorem newArray_eq_ok {elementType : Option Expression} {dimensions initializers : List Expression} :
    newArray span elementType dimensions initializers = .ok e ↔
      (elementType.isSome ∨ dimensions = []) ∧
        .newArray span elementType dimensions initializers = e := by
  simp [newArray]

/-- A lambda may have no parameters, but it has a body. -/
theorem lambda_eq_ok {parameters : List LambdaParameter} {body : Option LambdaBody} :
    lambda span parameters body = .ok e ↔
      ∃ b, body = some b ∧ .lambda span parameters b = e := by
  simp [lambda]

theorem methodReference_eq_ok {target : Option Expression} {method : Option Identifier} :
    methodReference span target method = .ok e ↔
      ∃ t, target = some t ∧ ∃ m, method = some m ∧ .methodReference span t m = e := by
  simp [methodReference]

/-- The use of an annotation names its type; arguments are never missed. -/
theorem annotationUse_eq_ok {type : Option Expression} {arguments : List Expression}
    {use : AnnotationUse} :
    annotationUse span type arguments = .ok use ↔
      ∃ t, type = some t ∧ ⟨span, t, arguments⟩ = use := by
  simp [annotationUse]

/-! ## Types -/

theorem arrayType_eq_ok {element : Option Expression} :
    arrayType span element = .ok e ↔
      ∃ t, element = some t ∧ .arrayType span t = e := by
  simp [arrayType]

theorem parameterizedType_eq_ok {base : Option Expression} {arguments : List Expression} :
    parameterizedType span base arguments = .ok e ↔
      ∃ b, base = some b ∧ .parameterizedType span b arguments = e := by
  simp [parameterizedType]

/-- A wildcard has a bound exactly if its kind tells on which side. -/
theorem wildcard_eq_ok {bound : Option Expression} :
    wildcard kind span bound = .ok e ↔
      ∃ w, kind = .wildcard w ∧ (bound = none ↔ w = .unbounded) ∧ .wildcard w span bound = e := by
  unfold wildcard
  split
  · simp
  · rename_i w h
    -- the match has taken the wildcard without bounds away, so this one has to have one
    cases bound <;> simp [show w ≠ .unbounded from h]
  · rename_i h
    simp only [reduceCtorEq, false_iff]
    rintro ⟨w, rfl, -⟩
    exact h _ rfl

/-- One alternative alone is no union. -/
theorem unionType_eq_ok {alternatives : List Expression} :
    unionType span alternatives = .ok e ↔
      2 ≤ alternatives.length ∧ .unionType span alternatives = e := by
  simp [unionType]

/-! ## Declarations -/

/-- A unit can lack all its parts, but annotations of a package need the package. -/
theorem compilationUnit_eq_ok {packageAnnotations : List AnnotationUse}
    {packageName : Option Expression} {imports : List Import} {types : List TypeDeclaration}
    {unit : CompilationUnit} :
    compilationUnit span packageAnnotations packageName imports types = .ok unit ↔
      (packageName.isSome ∨ packageAnnotations = []) ∧
        ⟨span, packageAnnotations, packageName, imports, types⟩ = unit := by
  simp [compilationUnit]

theorem importDeclaration_eq_ok {isStatic : Bool} {name : Option Expression} {i : Import} :
    importDeclaration span isStatic name = .ok i ↔
      ∃ n, name = some n ∧ ⟨span, isStatic, n⟩ = i := by
  simp [importDeclaration]

/-- A declaration with a name: only a class has a superclass, whatever else the kinds share. -/
theorem typeDeclaration_eq_ok {modifiers : Option Modifiers} {name : Option Identifier}
    {typeParameters : List TypeParameter} {superclass : Option Expression}
    {superInterfaces : List Expression} {members : List Member} {d : TypeDeclaration} :
    typeDeclaration kind span modifiers name typeParameters superclass superInterfaces members =
        .ok d ↔
      ∃ typeKind, kind = .typeDeclaration typeKind ∧ (typeKind = .classType ∨ superclass = none) ∧
        ∃ n, name = some n ∧
          ⟨typeKind, span, modifiers, some n, typeParameters, superclass, superInterfaces,
            members⟩ = d := by
  unfold typeDeclaration
  split
  · rename_i typeKind
    by_cases h : typeKind = .classType <;> simp [h]
  · rename_i h
    simp only [reduceCtorEq, false_iff]
    rintro ⟨typeKind, rfl, -⟩
    exact h _ rfl

/-- A constant has a name; arguments, body and modifiers may be absent. -/
theorem enumConstant_eq_ok {modifiers : Option Modifiers} {name : Option Identifier}
    {arguments : List Expression} {body : Option TypeDeclaration} {c : EnumConstant} :
    enumConstant span modifiers name arguments body = .ok c ↔
      ∃ n, name = some n ∧ ⟨span, modifiers, n, arguments, body⟩ = c := by
  simp [enumConstant]

/-- What is required of a callable depends on its kind. A constructor has a body and neither a return
type nor a default value, a method has a return type, and the element of an annotation needs none of
these. -/
theorem method_eq_ok {modifiers : Option Modifiers} {typeParameters : List TypeParameter}
    {returnType : Option Expression} {name : Option Identifier}
    {parameters : List VariableDeclaration} {throws : List Expression} {body : Option Block}
    {defaultValue : Option Expression} {m : MethodDeclaration} :
    method kind span modifiers typeParameters returnType name parameters throws body defaultValue =
        .ok m ↔
      ∃ callableKind, kind = .callable callableKind ∧
        (callableKind = .constructor → returnType = none ∧ defaultValue = none ∧ body.isSome) ∧
        (callableKind = .method → returnType.isSome) ∧
        ∃ n, name = some n ∧
          ⟨callableKind, span, modifiers, typeParameters, returnType, n, parameters, throws, body,
            defaultValue⟩ = m := by
  unfold method
  split
  · rename_i callableKind
    -- each kind keeps only the requirement that speaks of it
    cases callableKind <;> simp [and_assoc]
  · rename_i h
    simp only [reduceCtorEq, false_iff]
    rintro ⟨callableKind, rfl, -⟩
    exact h _ rfl

/-- A variable has a type and a name, a value only if it is given one. -/
theorem variableDeclaration_eq_ok {modifiers : Option Modifiers} {type : Option Expression}
    {name : Option Identifier} {initializer : Option Expression} {v : VariableDeclaration} :
    variableDeclaration span modifiers type name initializer = .ok v ↔
      ∃ t, type = some t ∧ ∃ n, name = some n ∧ ⟨span, modifiers, t, n, initializer⟩ = v := by
  simp [variableDeclaration]

theorem typeParameter_eq_ok {name : Option Identifier} {bounds : List Expression}
    {p : TypeParameter} :
    typeParameter span name bounds = .ok p ↔
      ∃ n, name = some n ∧ ⟨span, n, bounds⟩ = p := by
  simp [typeParameter]

/-! ## Statements -/

/-- The statement behind a label is a part like any other, and asked for. -/
theorem labeled_eq_ok {label : Option Identifier} {statement : Option Statement} :
    labeled span label statement = .ok s ↔
      ∃ l, label = some l ∧ ∃ t, statement = some t ∧ .labeled span l t = s := by
  simp [labeled]

theorem expressionStatement_eq_ok {expression : Option Expression} {x : ExpressionStatement} :
    expressionStatement span expression = .ok x ↔
      ∃ e, expression = some e ∧ ⟨span, e⟩ = x := by
  simp [expressionStatement]

/-- Only the second branch may be absent. -/
theorem ifElse_eq_ok {condition : Option Expression} {thenStatement elseStatement : Option Statement} :
    ifElse span condition thenStatement elseStatement = .ok s ↔
      ∃ c, condition = some c ∧ ∃ t, thenStatement = some t ∧
        .ifElse span c t elseStatement = s := by
  simp [ifElse]

theorem assertion_eq_ok {condition detail : Option Expression} :
    assertion span condition detail = .ok s ↔
      ∃ c, condition = some c ∧ .assertion span c detail = s := by
  simp [assertion]

/-- A switch may have no cases at all. -/
theorem switch_eq_ok {selector : Option Expression} {cases : List CaseGroup} :
    switch span selector cases = .ok s ↔
      ∃ e, selector = some e ∧ .switch span e cases = s := by
  simp [switch]

/-- A case has labels; statements it may lack, if it is the last one of its switch. -/
theorem caseGroup_eq_ok {labels : List CaseLabel} {body : List Statement} {g : CaseGroup} :
    caseGroup span labels body = .ok g ↔
      labels ≠ [] ∧ ⟨span, labels, body⟩ = g := by
  simp [caseGroup]

theorem whileLoop_eq_ok {condition : Option Expression} {body : Option Statement} :
    whileLoop span condition body = .ok s ↔
      ∃ c, condition = some c ∧ ∃ b, body = some b ∧ .whileLoop span c b = s := by
  simp [whileLoop]

theorem doLoop_eq_ok {body : Option Statement} {condition : Option Expression} :
    doLoop span body condition = .ok s ↔
      ∃ b, body = some b ∧ ∃ c, condition = some c ∧ .doLoop span b c = s := by
  simp [doLoop]

/-- All of the head of a loop may be left out, but not the body. -/
theorem forLoop_eq_ok {initializer : List Statement} {condition : Option Expression}
    {update : List ExpressionStatement} {body : Option Statement} :
    forLoop span initializer condition update body = .ok s ↔
      ∃ b, body = some b ∧ .forLoop span initializer condition update b = s := by
  simp [forLoop]

/-- Nothing may be left out in a loop over elements. -/
theorem forEach_eq_ok {element : Option VariableDeclaration} {iterable : Option Expression}
    {body : Option Statement} :
    forEach span element iterable body = .ok s ↔
      ∃ v, element = some v ∧ ∃ i, iterable = some i ∧ ∃ b, body = some b ∧
        .forEach span v i b = s := by
  simp [forEach]

theorem throwValue_eq_ok {value : Option Expression} :
    throwValue span value = .ok s ↔
      ∃ v, value = some v ∧ .throwValue span v = s := by
  simp [throwValue]

theorem synchronizedOn_eq_ok {lock : Option Expression} {block : Option Block} :
    synchronizedOn span lock block = .ok s ↔
      ∃ l, lock = some l ∧ ∃ b, block = some b ∧ .synchronizedOn span l b = s := by
  simp [synchronizedOn]

/-- A block that is tried comes with resources, with catch clauses or with a final block. -/
theorem tryBlock_eq_ok {resources : List VariableDeclaration} {block : Option Block}
    {catches : List CatchClause} {finallyBlock : Option Block} :
    tryBlock span resources block catches finallyBlock = .ok s ↔
      ∃ b, block = some b ∧ (resources ≠ [] ∨ catches ≠ [] ∨ finallyBlock.isSome) ∧
        .tryBlock span resources b catches finallyBlock = s := by
  simp [tryBlock, or_assoc]

/-- What is caught has a parameter, and its block is there though it may be empty. -/
theorem catchClause_eq_ok {parameter : Option VariableDeclaration} {block : Option Block}
    {c : CatchClause} :
    catchClause span parameter block = .ok c ↔
      ∃ p, parameter = some p ∧ ∃ b, block = some b ∧ ⟨span, p, b⟩ = c := by
  simp [catchClause]

end Checked

end JavaSyntax
