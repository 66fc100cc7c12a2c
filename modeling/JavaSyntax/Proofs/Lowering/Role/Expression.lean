import JavaSyntax.Proofs.Lowering.Forms.Declaration
import JavaSyntax.Proofs.Lowering.Invariant
import JavaSyntax.Proofs.Lowering.Places
import JavaSyntax.Proofs.Tree.Role

/-!
# Roles of types, variables and expressions

What a construct is lowered to suits a role that the construct alone decides: types suit the role of
a type, bodies of classes that of a class without a name, and everything else an ordinary role.

* `Construct.role`: the role of each construct;
* `Answers.Suited`: whether all answers suit the roles of their constructs;
* `suits_typeForm`, `suits_expressionForm`: types and expressions.

A role is decided by the construct that was asked for and not by the raw node, so the same raw node suits
the role of a type if it was asked for as a type and an ordinary one if it was asked for as an expression.
This is why nothing is assumed of the raw tree here, not even that it comes from a grammar.
-/

namespace JavaSyntax

open Node

/-- The role that what a construct is lowered to suits. -/
def Construct.role : Construct → Role
  | type => .type
  | anonymousClass => .classBody
  | _ => .ordinary

/-- Whether all answers suit the roles of the constructs that were asked for. -/
def Answers.Suited (below : Answers) : Prop :=
  ∀ raw, below.Satisfy raw fun construct _ n => n.Suits construct.role

namespace Answers.Suited

open Lowering

variable {below : Answers} {p : RawNode} (g : below.Suited)

include g

/-- An answer to a request for an expression, at the node that it was made of. -/
theorem expression {e : Expression} (given : Gives below expression p e) : e.node.Suits .ordinary :=
  (g p).expression p.mem_nodes_self given

/-- An answer to a request for a type, which suits more than an ordinary role. -/
theorem type {e : Expression} (given : Gives below typeExpression p e) : e.node.Suits .type :=
  (g p).type p.mem_nodes_self given

/-- An answer to a request for a statement. -/
theorem statement {s : Statement} (given : Gives below statement p s) : s.node.Suits .ordinary :=
  (g p).statement p.mem_nodes_self given

/-- An answer to a request for a list of statements. -/
theorem statements {ss : List Statement} (given : Gives below statements p ss) :
    ∀ s ∈ ss, s.node.Suits .ordinary :=
  (g p).statements p.mem_nodes_self given

/-- An answer to a request for a declared type, which has a name. -/
theorem typeDeclaration {d : TypeDeclaration} (given : Gives below typeDeclaration p d) :
    (Node.typeDeclaration d).Suits .ordinary :=
  (g p).typeDeclaration p.mem_nodes_self given

/-- An answer to a request for a class without a name. -/
theorem anonymousClass {d : TypeDeclaration} (given : Gives below anonymousClass p d) :
    (Node.typeDeclaration d).Suits .classBody :=
  (g p).anonymousClass p.mem_nodes_self given

/-- An answer to a request for an annotation. -/
theorem annotationUse {use : AnnotationUse} (given : Gives below annotationUse p use) :
    (Node.annotationUse use).Suits .ordinary :=
  (g p).annotationUse p.mem_nodes_self given

/-! ### Parts

Slots are filled from a part that may be absent or from a list of parts. In both cases what holds of the
answers to the parts holds of what is in the slot.
-/

theorem expressionPart {part : Option RawNode} {result : Option Expression}
    (given : Option.Rel (Gives below Lowering.expression) part result) :
    ∀ e, result = some e → e.node.Suits .ordinary := by
  refine of_rel given ?_
  intro p _ e gives
  exact g.expression gives

theorem typePart {part : Option RawNode} {result : Option Expression}
    (given : Option.Rel (Gives below typeExpression) part result) :
    ∀ e, result = some e → e.node.Suits .type := by
  refine of_rel given ?_
  intro p _ e gives
  exact g.type gives

theorem expressions {parts : List RawNode} {results : List Expression}
    (given : List.Forall₂ (Gives below Lowering.expression) parts results) :
    ∀ e ∈ results, e.node.Suits .ordinary := by
  refine of_forall₂ given ?_
  intro p _ e gives
  exact g.expression gives

theorem types {parts : List RawNode} {results : List Expression}
    (given : List.Forall₂ (Gives below typeExpression) parts results) :
    ∀ e ∈ results, e.node.Suits .type := by
  refine of_forall₂ given ?_
  intro p _ e gives
  exact g.type gives

end Answers.Suited

namespace Lowering

variable {raw : RawNode} {source : String} {below : Answers} (g : below.Suited)

/-! ## Names and brackets -/

/-- A selection that is put together suits what admits it. -/
theorem suits_select {role : Role} {scope : Expression} {name : RawNode}
    (admitted : role.Admits (select source scope name).node) (inner : scope.node.Suits .ordinary) :
    (select source scope name).node.Suits role :=
  .memberSelect admitted inner

/-- Array types around a type. -/
theorem suits_foldl_arrayOf {element : Expression} (typed : element.node.Suits .type)
    (closings : List RawNode) : (closings.foldl arrayOf element).node.Suits .type := by
  induction closings generalizing element with
  | nil => exact typed
  | cons closing rest ih =>
    rw [List.foldl_cons]
    apply ih
    exact .arrayType typed

include g

/-! ## Types -/

/-- All types, by the form of the raw node. A form that is put together adds slots for types. -/
theorem suits_typeForm {e : Expression} (form : TypeForm source below raw e) :
    e.node.Suits .type := by
  cases form with
  | primitive =>
    exact .plain (fun _ => rfl) ⟨rfl, Kind.noConfusion⟩ forall_children_primitiveType
  | name => exact .identifier ⟨rfl, Kind.noConfusion⟩
  | scopedType tag named given =>
    have scope := (g.type given).ordinary
    exact suits_select ⟨rfl, Kind.noConfusion⟩ scope
  | generic tag given types =>
    have base := g.typePart given _ rfl
    exact .parameterizedType base (g.types types)
  | array tag given =>
    have element := g.typePart given _ rfl
    exact suits_foldl_arrayOf element _
  | annotated tag last given => exact g.type given
  | wildcard tag given => exact .wildcard (g.typePart given)
  | scopedName tag given named =>
    have scope := g.expressionPart given _ rfl
    exact .memberSelect ⟨rfl, Kind.noConfusion⟩ scope

/-! ## Modifiers, annotations and values -/

/-- All annotations of a list are ordinary nodes. -/
theorem suits_modifiersForm {m : Modifiers} (form : ModifiersForm source below raw m) :
    (Node.modifiers m).Suits .ordinary := by
  obtain ⟨annotations, given, rfl⟩ := form
  have annotated : ∀ a ∈ annotations, (Node.annotationUse a).Suits .ordinary := by
    refine of_forall₂ given ?_
    intro p _ use gives
    exact g.annotationUse gives
  exact .plain (fun _ => rfl) trivial (forall_children_modifiers.mpr annotated)

/-- The modifiers of a declaration. -/
theorem suits_modifiersOf {result : Option Modifiers}
    (listed : Option.Rel (ModifiersForm source below) (raw.childOfTag? "modifiers") result) :
    ∀ m, result = some m → (Node.modifiers m).Suits .ordinary := by
  refine of_rel listed ?_
  intro list _ m form
  exact suits_modifiersForm g form

/-- The value of an annotation, down to the values of pairs. -/
theorem suits_annotationValue {e : Expression} (made : Gives below (annotationValue source) raw e) :
    e.node.Suits .ordinary := by
  -- the value of a pair is lowered at once, not asked for, so the induction is on the raw tree
  induction raw using RawNode.inductionOnParts generalizing e with
  | node raw ih =>
    cases annotationValue_form made with
    | pair tag equals named given =>
      obtain ⟨v, found, gives⟩ := exists_of_rel_some given
      have value := ih v (RawNode.mem_parts_of_field? found) gives
      exact .plain (fun _ => rfl) Kind.noConfusion
        (forall_children_assignment.mpr ⟨.identifier Kind.noConfusion, value⟩)
    | values given => exact (g raw).annotationValues raw.mem_nodes_self given
    | annotationUse given => exact g.annotationUse given
    | expression given => exact g.expression given

/-- The value of a variable, or values in braces. -/
theorem suits_initializer {e : Expression} (made : Gives below initializer raw e) :
    e.node.Suits .ordinary := by
  rcases initializer_form made with given | given
  · exact (g raw).arrayElements raw.mem_nodes_self given
  · exact g.expression given

/-- An element of an array, or inner braces. -/
theorem suits_arrayElement {e : Expression} (made : Gives below arrayElement raw e) :
    e.node.Suits .ordinary := by
  rcases arrayElement_form made with given | given
  · exact (g raw).innerElements raw.mem_nodes_self given
  · exact g.expression given

/-- A value that may be absent. -/
theorem suits_initializerPart {part : Option RawNode} {result : Option Expression}
    (given : Option.Rel (Gives below initializer) part result) :
    ∀ e, result = some e → e.node.Suits .ordinary := by
  refine of_rel given ?_
  intro p _ e gives
  exact suits_initializer g gives

/-- A block that is asked for is a plain one. -/
theorem suits_block {b : Block} (made : Gives below block raw b) :
    (Node.block b).Suits .ordinary := by
  obtain ⟨body, given, rfl⟩ := block_form made
  have held := g.statements given
  exact .plain (fun _ => rfl) rfl (forall_children_block.mpr held)

/-- A block that may be absent. -/
theorem suits_blockPart {part : Option RawNode} {result : Option Block}
    (given : Option.Rel (Gives below block) part result) :
    ∀ b, result = some b → (Node.block b).Suits .ordinary := by
  refine of_rel given ?_
  intro p _ b gives
  exact suits_block g gives

/-! ## Variables and parameters -/

omit g in
/-- A variable whose type is not a union. -/
theorem suits_variable {v : VariableDeclaration}
    (listed : ∀ m, v.modifiers = some m → (Node.modifiers m).Suits .ordinary)
    (typed : v.type.node.Suits .type)
    (given : ∀ e, v.initializer = some e → e.node.Suits .ordinary) :
    (Node.variableDeclaration v).Suits .ordinary := by
  have plain : v.type.node.kind ≠ .unionType := typed.admitted.2
  exact .variableDeclaration plain listed typed.declaredType given

/-- All variables of a declaration. Brackets behind a name make more levels of the type, which stays a
type. -/
theorem suits_variableDeclarations {vs : List VariableDeclaration}
    (made : Gives below (variableDeclarations source) raw vs) :
    ∀ v ∈ vs, (Node.variableDeclaration v).Suits .ordinary := by
  obtain ⟨modifiers, type, listed, given, declarators⟩ := run_variableDeclarations_eq_ok.mp made
  refine of_forall₂ declarators ?_
  intro p _ v made
  obtain ⟨base, name, value, rfl, named, init, rfl⟩ := run_declarator_eq_ok.mp made
  have element := g.typePart given _ rfl
  exact suits_variable (suits_modifiersOf g listed) (suits_foldl_arrayOf element _)
    (suits_initializerPart g init)

/-- A variable of a loop, of a list of parameters or among resources. -/
theorem suits_declaredVariable {value : Option RawNode} {v : VariableDeclaration}
    (made : (declaredVariable source raw value).run below = .ok v) :
    (Node.variableDeclaration v).Suits .ordinary := by
  obtain ⟨modifiers, base, name, init, listed, given, named, valued, rfl⟩ :=
    run_declaredVariable_eq_ok.mp made
  have element := g.typePart given _ rfl
  exact suits_variable (suits_modifiersOf g listed) (suits_foldl_arrayOf element _)
    (g.expressionPart valued)

/-- The dots make one more level of the type. -/
theorem suits_spreadParameter {v : VariableDeclaration}
    (made : (spreadParameter source raw).run below = .ok v) :
    (Node.variableDeclaration v).Suits .ordinary := by
  obtain ⟨modifiers, element, declarator, name, value, listed, given, found, named, init, rfl⟩ :=
    run_spreadParameter_eq_ok.mp made
  have element := g.typePart given _ rfl
  exact suits_variable (suits_modifiersOf g listed) (suits_foldl_arrayOf element _)
    (suits_initializerPart g init)

/-- Parameters of both sorts. -/
theorem suits_parameter {v : VariableDeclaration} (made : Gives below (parameter source) raw v) :
    (Node.variableDeclaration v).Suits .ordinary := by
  rcases parameter_form made with ⟨-, made⟩ | ⟨-, made⟩
  · exact suits_declaredVariable g made
  · exact suits_spreadParameter g made

/-! ## Parts of expressions -/

/-- The name of a call is plain, or selected from what stands before it. -/
theorem suits_calleeForm {e : Expression} (form : CalleeForm source below raw e) :
    e.node.Suits .callee := by
  cases form with
  | plain absent named => exact .identifier (.inl rfl)
  | qualified given named =>
    have object := g.expressionPart given _ rfl
    exact suits_select (.inr rfl) object
  | outerSuper found given listed between named =>
    have outer := g.expression given
    exact suits_select (.inr rfl) (suits_select Kind.noConfusion outer)

/-- The size of an array is an expression. -/
theorem suits_arraySize {e : Expression} (made : Gives below arraySize raw e) :
    e.node.Suits .ordinary := by
  obtain ⟨size, last, given⟩ := arraySize_form made
  exact g.expression given

/-- A block or an expression. -/
theorem suits_lambdaBody {body : LambdaBody} (form : LambdaBodyForm below raw body) :
    body.node.Suits .ordinary := by
  cases form with
  | block given => exact suits_block g given
  | expression given => exact g.expression given

/-- Bare names, or variables with their types. -/
theorem suits_lambdaParameters {list : Option RawNode} {parameters : List LambdaParameter}
    (form : LambdaParametersForm source below list parameters) :
    ∀ p ∈ parameters, p.node.Suits .ordinary := by
  intro p hp
  cases form with
  | absent => exact absurd hp List.not_mem_nil
  | single name =>
    rw [List.mem_singleton] at hp
    rw [hp]
    exact .identifier Kind.noConfusion
  | inferred list =>
    obtain ⟨name, -, rfl⟩ := List.mem_map.mp hp
    exact .identifier Kind.noConfusion
  | declared given =>
    obtain ⟨v, hv, rfl⟩ := List.mem_map.mp hp
    obtain ⟨q, -, gives⟩ := exists_of_forall₂ given hv
    exact suits_parameter g gives

/-! ## Expressions -/

/-- All expressions, by the form of the raw node. Calls, creations, casts and tests ask for types in
some of their slots, and a call for a name besides. -/
theorem suits_expressionForm {e : Expression} (form : ExpressionForm source below raw e) :
    e.node.Suits .ordinary := by
  cases form with
  | literal => exact .plain (fun _ => rfl) Kind.noConfusion forall_children_literal
  | name => exact .identifier Kind.noConfusion
  | type form => exact (suits_typeForm g form).ordinary
  -- forms without slots of a role of their own are plain, and their children are ordinary
  | fieldAccess tag given named =>
    have object := g.expressionPart given _ rfl
    exact .memberSelect Kind.noConfusion object
  | outerSuperAccess tag given parts keyword named =>
    have object := g.expressionPart given _ rfl
    exact .memberSelect Kind.noConfusion (suits_select Kind.noConfusion object)
  | parenthesized tag given =>
    have inner := g.expressionPart given _ rfl
    exact .plain (fun _ => rfl) Kind.noConfusion (forall_children_parenthesized.mpr inner)
  -- from here on some slots ask for a name or a type
  | call tag called typed given =>
    have callee := suits_calleeForm g called
    exact .methodInvocation callee (g.types typed) (g.expressions given)
  | creation tag outer typed made given extended =>
    have type := g.typePart made _ rfl
    refine .newClass (g.expressionPart outer) (g.types typed) type (g.expressions given) ?_
    refine of_rel extended ?_
    intro p _ d gives
    exact g.anonymousClass gives
  | arrayCreation tag made sized filled =>
    apply Suits.newArray
    · intro t ht
      obtain ⟨base, rfl, rfl⟩ := Option.map_eq_some_iff.mp ht
      have element := g.typePart made _ rfl
      exact suits_foldl_arrayOf element _
    · refine of_forall₂ sized ?_
      intro p _ size gives
      exact suits_arraySize g gives
    · refine of_forall₂ filled ?_
      intro p _ element gives
      exact suits_arrayElement g gives
  | arrayAccess tag given at_ =>
    have array := g.expressionPart given _ rfl
    have index := g.expressionPart at_ _ rfl
    exact .plain (fun _ => rfl) Kind.noConfusion (forall_children_arrayAccess.mpr ⟨array, index⟩)
  | cast tag typed given =>
    have type := g.typePart typed _ rfl
    have value := g.expressionPart given _ rfl
    exact .typeCast type value
  | instanceOf tag found given typed =>
    have value := g.expressionPart given _ rfl
    have type := g.typePart typed _ rfl
    exact .instanceOf value type
  | conditional tag tested met unmet =>
    have condition := g.expressionPart tested _ rfl
    have whenTrue := g.expressionPart met _ rfl
    have whenFalse := g.expressionPart unmet _ rfl
    exact .plain (fun _ => rfl) Kind.noConfusion
      (forall_children_conditional.mpr ⟨condition, whenTrue, whenFalse⟩)
  | unary tag found known given =>
    have operand := g.expressionPart given _ rfl
    exact .plain (fun _ => rfl) Kind.noConfusion (forall_children_unary.mpr operand)
  | binary tag found known first second =>
    have left := g.expressionPart first _ rfl
    have right := g.expressionPart second _ rfl
    exact .plain (fun _ => rfl) Kind.noConfusion (forall_children_binary.mpr ⟨left, right⟩)
  | assignment tag found known assigned given =>
    have target := g.expressionPart assigned _ rfl
    have value := g.expressionPart given _ rfl
    exact .plain (fun _ => rfl) Kind.noConfusion (forall_children_assignment.mpr ⟨target, value⟩)
  | update tag found known given =>
    have operand := g.expressionPart given _ rfl
    exact .plain (fun _ => rfl) Kind.noConfusion (forall_children_unary.mpr operand)
  | lambda tag declared given =>
    obtain ⟨p, found, body⟩ := exists_of_rel_some given
    have parameters := suits_lambdaParameters g declared
    have body := suits_lambdaBody g body
    exact .plain (fun _ => rfl) Kind.noConfusion (forall_children_lambda.mpr ⟨parameters, body⟩)
  | methodReference tag given named =>
    have target := g.expressionPart given _ rfl
    exact .plain (fun _ => rfl) Kind.noConfusion
      (forall_children_methodReference.mpr ⟨target, .identifier Kind.noConfusion⟩)
  | classLiteral tag first found given =>
    have target := (g.type given).ordinary
    exact suits_select Kind.noConfusion target

end Lowering

end JavaSyntax
