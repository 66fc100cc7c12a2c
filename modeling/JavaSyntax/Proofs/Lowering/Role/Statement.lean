import JavaSyntax.Proofs.Lowering.Forms.Entry
import JavaSyntax.Proofs.Lowering.Role.Expression

/-!
# Roles of declarations and statements

* `suits_memberForm`, `suits_typeDeclarationBody`, `suits_anonymousClassBody`: types and members;
* `suits_catchParameter`: the one place where a union is lowered to;
* `suits_statementForm`: statements;
* `suits_body`: what any construct is lowered to.

The members of a type and the parameter of a `catch` are not asked for but lowered on the spot, so their
roles come from the lowering that makes them and not from a construct. A lowering can be used in more
than one role: variables are members, statements or the start of a loop, and `Suits.recast` takes them
from one role to the other.
-/

namespace JavaSyntax

open Node

namespace Lowering

variable {raw : RawNode} {source : String} {below : Answers} (g : below.Suited)

include g

/-! ## Types and their members -/

/-- A type parameter, whose bounds are types. -/
theorem suits_typeParameter {p : TypeParameter} (made : Gives below (typeParameter source) raw p) :
    (Node.typeParameter p).Suits .ordinary := by
  obtain ⟨name, bounds, found, given, rfl⟩ := typeParameter_form made
  exact .typeParameter (g.types given)

/-- The type parameters of a list. -/
theorem suits_typeParameters {parts : List RawNode} {types : List TypeParameter}
    (typed : List.Forall₂ (Gives below (typeParameter source)) parts types) :
    ∀ p ∈ types, (Node.typeParameter p).Suits .ordinary := by
  refine of_forall₂ typed ?_
  intro p _ type gives
  exact suits_typeParameter g gives

/-- Methods and constructors alike. -/
theorem suits_method {kind : CallableKind} {m : MethodDeclaration}
    (made : Gives below (method source kind) raw m) : (Node.method m).Suits .ordinary := by
  obtain ⟨modifiers, types, declared, name, parameters, throws, body, value, listed, typed, given,
    named, passed, thrown, bodied, valued, -, -, rfl⟩ := run_method_eq_ok.mp made
  apply Suits.method
  case listed => exact suits_modifiersOf g listed
  case bounded => exact suits_typeParameters g typed
  case returned =>
    intro t ht
    obtain ⟨base, rfl, rfl⟩ := Option.map_eq_some_iff.mp ht
    have element := g.typePart given _ rfl
    exact suits_foldl_arrayOf element _
  case passed =>
    refine of_forall₂ passed ?_
    intro p _ v gives
    exact suits_parameter g gives
  case thrown => exact g.types thrown
  case bodied => exact suits_blockPart g bodied
  case valued =>
    refine of_rel valued ?_
    intro p _ e gives
    exact suits_annotationValue g gives

/-- A constant with a body has a class without a name in it. -/
theorem suits_enumConstant {c : EnumConstant} (made : Gives below (enumConstant source) raw c) :
    (Node.enumConstant c).Suits .ordinary := by
  obtain ⟨modifiers, name, values, body, listed, named, given, extended, rfl⟩ :=
    enumConstant_form made
  refine .enumConstant (suits_modifiersOf g listed) (g.expressions given) ?_
  refine of_rel extended ?_
  intro p _ d gives
  exact g.anonymousClass gives

/-- A static initializer is a member, and no plain block. -/
theorem suits_staticInitializer {b : Block} (made : Gives below staticInitializer raw b) :
    (Node.block b).Suits .member := by
  obtain ⟨body, given, rfl⟩ := staticInitializer_form made
  have held : ∀ s ∈ body.getD [], s.node.Suits .ordinary := by
    intro s hs
    cases body with
    | none => exact absurd hs List.not_mem_nil
    | some body =>
      obtain ⟨p, found, gives⟩ := exists_of_rel_some given
      exact g.statements gives s hs
  exact .plain (fun _ => rfl) BlockKind.noConfusion (forall_children_block.mpr held)

/-- The blocks among the members of a type are its initializers. -/
theorem suits_memberForm {ms : List Member} (form : MemberForm source below raw ms) :
    ∀ m ∈ ms, m.node.Suits .member := by
  cases form with
  -- what is ordinary is admitted as a member, if it is not a plain block
  | declaration tag given =>
    rw [List.forall_mem_map]
    intro v hv
    have suits := suits_variableDeclarations g given v hv
    exact suits.recast suits.admitted
  | method tag given =>
    rw [List.forall_mem_singleton]
    exact (suits_method g given).recast trivial
  | enumConstant given =>
    rw [List.forall_mem_singleton]
    exact (suits_enumConstant g given).recast trivial
  | initializer given =>
    rw [List.forall_mem_singleton]
    have held := g.statements given
    exact .plain (fun _ => rfl) BlockKind.noConfusion (forall_children_block.mpr held)
  | staticInitializer given =>
    rw [List.forall_mem_singleton]
    exact suits_staticInitializer g given
  | type given =>
    rw [List.forall_mem_singleton]
    have suits := g.typeDeclaration given
    exact suits.recast suits.admitted

/-- The members of a body. An empty declaration is one of them. -/
theorem suits_members {ms : List Member} (made : Gives below (members source) raw ms) :
    ∀ m ∈ ms, m.node.Suits .member := by
  refine forall_of_members made ?_ ?_
  · intro p _ members form
    exact suits_memberForm g form
  · intro p _
    exact .plain (fun _ => rfl) rfl forall_children_empty

/-- A body without a header makes a class without a name. -/
theorem suits_anonymousClassBody {d : TypeDeclaration}
    (made : (anonymousClassBody source raw).run below = .ok d) :
    (Node.typeDeclaration d).Suits .classBody := by
  obtain ⟨ms, given, rfl⟩ := anonymousClassBody_form made
  exact .typeDeclaration rfl nofun nofun nofun nofun (suits_members g given)

/-- A header makes a class with a name. -/
theorem suits_typeDeclarationBody {d : TypeDeclaration}
    (made : (typeDeclarationBody source raw).run below = .ok d) :
    (Node.typeDeclaration d).Suits .ordinary := by
  obtain ⟨kind, modifiers, name, types, superclass, interfaces, held, known, listed, named, typed,
    extended, implemented, given, -, rfl⟩ := typeDeclarationBody_form made
  refine .typeDeclaration rfl (suits_modifiersOf g listed) (suits_typeParameters g typed)
    (g.typePart extended) (g.types implemented) ?_
  intro m hm
  cases held with
  | none => exact absurd hm List.not_mem_nil
  | some ms =>
    obtain ⟨p, found, gives⟩ := exists_of_rel_some given
    exact suits_members g gives m hm

/-! ## Places among statements -/

/-- What is called is `this` or `super`, alone or selected from an object, and so a name. -/
theorem suits_constructorCall {s : ExpressionStatement}
    (made : Gives below (constructorCall source) raw s) :
    (Node.expressionStatement s).Suits .ordinary := by
  obtain ⟨callee, types, values, called, typed, given, rfl⟩ := constructorCall_form made
  have called : callee.node.Suits .callee := by
    cases called with
    | plain absent named => exact .identifier (.inl rfl)
    | qualified given named =>
      have object := g.expressionPart given _ rfl
      exact suits_select (.inr rfl) object
  refine .plain (fun _ => rfl) trivial (forall_children_expressionStatement.mpr ?_)
  exact .methodInvocation called (g.types typed) (g.expressions given)

/-- What one raw statement makes, be it one statement or several. -/
theorem suits_statementsForm {ss : List Statement} (form : StatementsForm source below raw ss) :
    ∀ s ∈ ss, s.node.Suits .ordinary := by
  cases form with
  | declaration tag given =>
    rw [List.forall_mem_map]
    exact suits_variableDeclarations g given
  | constructorCall tag given =>
    rw [List.forall_mem_singleton]
    exact suits_constructorCall g given
  | type given =>
    rw [List.forall_mem_singleton]
    exact g.typeDeclaration given
  | statement given =>
    rw [List.forall_mem_singleton]
    exact g.statement given

/-- What a child of a block makes. A semicolon alone is an empty statement. -/
theorem suits_blockEntryForm {ss : List Statement} (form : BlockEntryForm source below raw ss) :
    ∀ s ∈ ss, s.node.Suits .ordinary := by
  cases form with
  | named isNamed form => exact suits_statementsForm g form
  | empty tag =>
    rw [List.forall_mem_singleton]
    exact .plain (fun _ => rfl) rfl forall_children_empty
  | token => exact fun s hs => absurd hs List.not_mem_nil

/-- All statements of a block. -/
theorem suits_statementList {ss : List Statement}
    (made : Gives below (statementList source) raw ss) : ∀ s ∈ ss, s.node.Suits .ordinary := by
  obtain ⟨groups, given, rfl⟩ := statementList_form made
  refine of_forall₂_flatten given ?_
  intro p _ group gives
  exact suits_blockEntryForm g (blockEntry_form gives)

/-! ## Parts of statements -/

/-- An expression in the place of a statement. -/
theorem suits_bareExpression {s : ExpressionStatement} (made : Gives below bareExpression raw s) :
    (Node.expressionStatement s).Suits .ordinary := by
  obtain ⟨e, given, rfl⟩ := bareExpression_form made
  have bare := g.expression given
  exact .plain (fun _ => rfl) trivial (forall_children_expressionStatement.mpr bare)

/-- What a `for` starts with are variables or expressions. -/
theorem suits_forInitializer {ss : List Statement}
    (made : Gives below (forInitializer source) raw ss) : ∀ s ∈ ss, s.node.Suits .initializer := by
  cases forInitializer_form made with
  | declaration tag given =>
    rw [List.forall_mem_map]
    intro v hv
    have suits := suits_variableDeclarations g given v hv
    exact suits.recast ⟨suits.admitted, .inl rfl⟩
  | expression given =>
    rw [List.forall_mem_singleton]
    exact (suits_bareExpression g given).recast ⟨trivial, .inr rfl⟩

/-- One type or a union of several. -/
theorem suits_caughtType {type : Expression} (form : CaughtTypeForm below raw type) :
    type.node.Suits .declaredType := by
  cases form with
  | union several given => exact .unionType (g.types given)
  | single only given => exact (g.type given).declaredType

/-- The one variable whose type may be a union. -/
theorem suits_catchParameter {v : VariableDeclaration}
    (made : Gives below (catchParameter source) raw v) :
    (Node.variableDeclaration v).Suits .caught := by
  obtain ⟨modifiers, list, caught, name, listed, found, form, named, rfl⟩ :=
    catchParameter_form made
  have type := suits_caughtType g form
  exact .variableDeclaration trivial (suits_modifiersOf g listed) type nofun

/-- A clause holds its parameter in the slot with that role. -/
theorem suits_catchClause {c : CatchClause} (made : Gives below (catchClause source) raw c) :
    (Node.catchClause c).Suits .ordinary := by
  obtain ⟨parameter, body, given, bodied, rfl⟩ := catchClause_form made
  obtain ⟨p, found, gives⟩ := exists_of_rel_some given
  have declared := suits_catchParameter g gives
  have body := suits_blockPart g bodied _ rfl
  exact .catchClause declared body

/-! ## Switches -/

/-- The values of a label. -/
theorem suits_caseLabel {l : CaseLabel} (made : Gives below caseLabel raw l) :
    (Node.caseLabel l).Suits .ordinary := by
  obtain ⟨values, given, rfl⟩ := caseLabel_form made
  have compared := g.expressions given
  exact .plain (fun _ => rfl) trivial (forall_children_caseLabel.mpr compared)

/-- A label or the statements that a child of a group makes. -/
theorem suits_caseEntryForm {entry : List CaseLabel × List Statement}
    (form : CaseEntryForm source below raw entry) :
    (∀ l ∈ entry.1, (Node.caseLabel l).Suits .ordinary) ∧
      ∀ s ∈ entry.2, s.node.Suits .ordinary := by
  cases form with
  | label tag given =>
    refine ⟨?_, fun s hs => absurd hs List.not_mem_nil⟩
    rw [List.forall_mem_singleton]
    exact suits_caseLabel g given
  | body tag form => exact ⟨fun l hl => absurd hl List.not_mem_nil, suits_blockEntryForm g form⟩

/-- All labels and all statements of one group. -/
theorem suits_caseGroupBody {group : List CaseLabel × List Statement}
    (made : (caseGroupBody source raw).run below = .ok group) :
    (∀ l ∈ group.1, (Node.caseLabel l).Suits .ordinary) ∧
      ∀ s ∈ group.2, s.node.Suits .ordinary := by
  obtain ⟨entries, given, rfl⟩ := caseGroupBody_form made
  have each := of_forall₂ given fun _ _ _ gives => suits_caseEntryForm g (caseEntry_form gives)
  constructor
  · intro l hl
    obtain ⟨entry, hentry, hl⟩ := List.mem_flatMap.mp hl
    exact (each entry hentry).1 l hl
  · intro s hs
    obtain ⟨entry, hentry, hs⟩ := List.mem_flatMap.mp hs
    exact (each entry hentry).2 s hs

omit g in
/-- Labels that were pending are put before those of the group. -/
theorem suits_joined {pending : Option (Span × List CaseLabel)} {group : RawNode}
    {labels : List CaseLabel}
    (early : ∀ run, pending = some run → ∀ l ∈ run.2, (Node.caseLabel l).Suits .ordinary)
    (own : ∀ l ∈ labels, (Node.caseLabel l).Suits .ordinary) :
    ∀ l ∈ (joined pending group labels).2, (Node.caseLabel l).Suits .ordinary := by
  cases pending with
  | none => exact own
  | some run =>
    show ∀ l ∈ run.2 ++ labels, _
    rw [List.forall_mem_append]
    exact ⟨early run rfl, own⟩

/-- The groups of a switch. The induction is on how they were taken one after the other, with the
labels that are still pending as the invariant. -/
theorem suits_caseGroupsForm {pending : Option (Span × List CaseLabel)} {groups : List RawNode}
    {cases : List CaseGroup} (form : CaseGroupsForm below pending groups cases)
    (early : ∀ run, pending = some run → ∀ l ∈ run.2, (Node.caseLabel l).Suits .ordinary) :
    ∀ c ∈ cases, (Node.caseGroup c).Suits .ordinary := by
  induction form with
  | done => exact fun c hc => absurd hc List.not_mem_nil
  | last labeled =>
    rw [List.forall_mem_singleton]
    exact .plain (fun _ => rfl) trivial (forall_children_caseGroup.mpr
      ⟨early _ rfl, fun s hs => absurd hs List.not_mem_nil⟩)
  | @pending earlier group labels rest later given form ih =>
    refine ih ?_
    rintro _ ⟨⟩
    exact suits_joined early ((g group).caseGroup group.mem_nodes_self given).1
  | @closed earlier group labels body rest later given filled labeled form ih =>
    have ⟨own, held⟩ := (g group).caseGroup group.mem_nodes_self given
    rw [List.forall_mem_cons]
    constructor
    · exact .plain (fun _ => rfl) trivial
        (forall_children_caseGroup.mpr ⟨suits_joined early own, held⟩)
    · exact ih nofun

/-! ## Statements -/

/-- A statement that may be absent. -/
theorem suits_statementPart {part : Option RawNode} {result : Option Statement}
    (given : Option.Rel (Gives below statement) part result) :
    ∀ s, result = some s → s.node.Suits .ordinary := by
  refine of_rel given ?_
  intro p _ s gives
  exact g.statement gives

/-- All statements, by the form of the raw node. -/
theorem suits_statementForm {s : Statement} (form : StatementForm source below raw s) :
    s.node.Suits .ordinary := by
  cases form with
  | empty => exact .plain (fun _ => rfl) rfl forall_children_empty
  | block given =>
    have held := suits_statementList g given
    exact .plain (fun _ => rfl) rfl (forall_children_block.mpr held)
  | expression given =>
    have bare := g.expressionPart given _ rfl
    exact .plain (fun _ => rfl) trivial (forall_children_expressionStatement.mpr bare)
  | labeled named given =>
    have body := suits_statementPart g given _ rfl
    exact .plain (fun _ => rfl) rfl
      (forall_children_labeled.mpr ⟨.identifier Kind.noConfusion, body⟩)
  | ifElse tag tested met unmet =>
    have condition := g.expressionPart tested _ rfl
    have whenTrue := suits_statementPart g met _ rfl
    have whenFalse := suits_statementPart g unmet
    exact .plain (fun _ => rfl) rfl (forall_children_ifElse.mpr ⟨condition, whenTrue, whenFalse⟩)
  | whileLoop tag tested given =>
    have condition := g.expressionPart tested _ rfl
    have body := suits_statementPart g given _ rfl
    exact .plain (fun _ => rfl) rfl (forall_children_whileLoop.mpr ⟨condition, body⟩)
  | doLoop tag given tested =>
    have body := suits_statementPart g given _ rfl
    have condition := g.expressionPart tested _ rfl
    exact .plain (fun _ => rfl) rfl (forall_children_doLoop.mpr ⟨body, condition⟩)
  -- the initializers stand in a role of their own
  | forLoop tag started tested updated given =>
    apply Suits.forLoop
    case started =>
      refine of_forall₂_flatten started ?_
      intro p _ group gives
      exact suits_forInitializer g gives
    case tested => exact g.expressionPart tested
    case updated =>
      refine of_forall₂ updated ?_
      intro p _ s gives
      exact suits_bareExpression g gives
    case given => exact suits_statementPart g given _ rfl
  | forEach tag declared ranged given =>
    have declared := suits_declaredVariable g declared
    have range := g.expressionPart ranged _ rfl
    have body := suits_statementPart g given _ rfl
    exact .plain (fun _ => rfl) rfl (forall_children_forEach.mpr ⟨declared, range, body⟩)
  | breakOut =>
    refine .plain (fun _ => rfl) rfl (forall_children_breakOut.mpr ?_)
    intro i hi
    obtain ⟨name, found, rfl⟩ := Option.map_eq_some_iff.mp hi
    exact .identifier Kind.noConfusion
  | continueLoop =>
    refine .plain (fun _ => rfl) rfl (forall_children_continueLoop.mpr ?_)
    intro i hi
    obtain ⟨name, found, rfl⟩ := Option.map_eq_some_iff.mp hi
    exact .identifier Kind.noConfusion
  | returnValue given =>
    have value := g.expressionPart given
    exact .plain (fun _ => rfl) rfl (forall_children_returnValue.mpr value)
  | throwValue given =>
    have value := g.expressionPart given _ rfl
    exact .plain (fun _ => rfl) rfl (forall_children_throwValue.mpr value)
  | assertion tested given =>
    have condition := g.expressionPart tested _ rfl
    have detail := g.expressionPart given
    exact .plain (fun _ => rfl) rfl (forall_children_assertion.mpr ⟨condition, detail⟩)
  | synchronizedOn tag given bodied =>
    have lock := g.expressionPart given _ rfl
    have body := suits_blockPart g bodied _ rfl
    exact .plain (fun _ => rfl) rfl (forall_children_synchronizedOn.mpr ⟨lock, body⟩)
  -- the clauses hold their parameters in the role of what is caught
  | tryBlock tag opened bodied caught closed =>
    have resources := of_forall₂ opened fun _ _ _ gives =>
      suits_declaredVariable g (resource_form gives)
    have body := suits_blockPart g bodied _ rfl
    have catches := of_forall₂ caught fun _ _ _ gives => suits_catchClause g gives
    have last := suits_blockPart g closed
    exact .plain (fun _ => rfl) rfl
      (forall_children_tryBlock.mpr ⟨resources, body, catches, last⟩)
  | switch tag given grouped =>
    have subject := g.expressionPart given _ rfl
    have groups := suits_caseGroupsForm g grouped nofun
    exact .plain (fun _ => rfl) rfl (forall_children_switch.mpr ⟨subject, groups⟩)
  | sole form => exact suits_statementsForm g form _ List.mem_cons_self

/-! ## All constructs -/

/-- An annotation, whose name is an ordinary expression. -/
theorem suits_annotationBody {use : AnnotationUse}
    (made : (annotationBody source raw).run below = .ok use) :
    (Node.annotationUse use).Suits .ordinary := by
  obtain ⟨type, values, named, given, rfl⟩ := annotationBody_form made
  have name := g.expressionPart named _ rfl
  have held := of_forall₂ given fun _ _ _ gives => suits_annotationValue g gives
  exact .plain (fun _ => rfl) trivial (forall_children_annotationUse.mpr ⟨name, held⟩)

/-- What a construct consists of suits the role of the construct. -/
theorem suits_body (construct : Construct) {result : construct.Result}
    (made : (body source construct raw).run below = .ok result) :
    ∀ n ∈ construct.nodes result, n.Suits construct.role := by
  cases construct with
  | expression =>
    rw [Construct.nodes, List.forall_mem_singleton]
    exact suits_expressionForm g (expressionBody_form made)
  | type =>
    rw [Construct.nodes, List.forall_mem_singleton]
    exact suits_typeForm g (typeBody_form made)
  | statement =>
    rw [Construct.nodes, List.forall_mem_singleton]
    exact suits_statementForm g (statementBody_form made)
  -- several nodes answer this request, each of them in its place among statements
  | statements =>
    rw [Construct.nodes, List.forall_mem_map]
    exact suits_statementList g made
  | typeDeclaration =>
    rw [Construct.nodes, List.forall_mem_singleton]
    exact suits_typeDeclarationBody g made
  | anonymousClass =>
    rw [Construct.nodes, List.forall_mem_singleton]
    exact suits_anonymousClassBody g made
  | annotationUse =>
    rw [Construct.nodes, List.forall_mem_singleton]
    exact suits_annotationBody g made
  | caseGroup =>
    rw [Construct.nodes, List.forall_mem_append, List.forall_mem_map, List.forall_mem_map]
    exact suits_caseGroupBody g made
  | arrayElements =>
    rw [Construct.nodes, List.forall_mem_singleton]
    obtain ⟨elements, given, rfl⟩ := run_arrayElementsBody_eq_ok.mp made
    exact .newArray nofun nofun (of_forall₂ given fun _ _ _ gives => suits_initializer g gives)
  | innerElements =>
    rw [Construct.nodes, List.forall_mem_singleton]
    obtain ⟨elements, given, rfl⟩ := innerElementsBody_form made
    exact .newArray nofun nofun (of_forall₂ given fun _ _ _ gives => suits_arrayElement g gives)
  | annotationValues =>
    rw [Construct.nodes, List.forall_mem_singleton]
    obtain ⟨elements, given, rfl⟩ := annotationValuesBody_form made
    exact .newArray nofun nofun (of_forall₂ given fun _ _ _ gives => suits_annotationValue g gives)

end Lowering

end JavaSyntax
