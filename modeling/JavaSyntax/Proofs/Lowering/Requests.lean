import JavaSyntax.Proofs.Lowering.Confined
import JavaSyntax.Proofs.Lowering.Places

/-!
# Requests — every lowering asks for smaller constructs

Each lowering of a node asks only for nodes strictly inside it, with one exception: a statement that
is a type declaration asks for that declaration at the same node. It is refused only for a node that
it holds, or for parts that make no node.

* `Construct.MayAsk`: what a construct may ask for, with the exception;
* `body_confined`: what a construct consists of asks for no more;
* `inside_compilationUnit`, `inside_soleExpression`: what a whole source is lowered to.

A lemma for each lowering says which of the two sorts it is. A lowering that reads the parts of its node
is `Inside` it; one that looks at the node only to say what to ask for is `Over` it, since it asks for
the same node as another construct. The second sort is used for parts, and what is `Over` a part is
`Inside` the whole. The order of the lemmas is that of the lowerings.
-/

namespace JavaSyntax

/-- What a construct of a node may ask for: nodes strictly inside it, and the type declaration that a
statement is. -/
def Construct.MayAsk (construct : Construct) (raw : RawNode) (requested : Construct) (q : RawNode) :
    Prop :=
  raw.Encloses q ∨ construct = .statement ∧ requested = .typeDeclaration ∧ q = raw

/-- Whatever is asked for lies inside the node, if not strictly. -/
theorem Construct.MayAsk.mem_nodes {construct requested : Construct} {raw q : RawNode}
    (h : construct.MayAsk raw requested q) : q ∈ raw.nodes := by
  rcases h with h | ⟨-, -, rfl⟩
  · exact h.mem_nodes
  · exact q.mem_nodes_self

namespace Lowering

/-- What asks for nodes strictly inside is within what any construct may ask for. -/
theorem Inside.mayAsk {α : Type} {raw : RawNode} {x : Lowering α} (h : x.Inside raw)
    (construct : Construct) : x.Confined (construct.MayAsk raw) raw.Refusal :=
  h.mono (fun _ _ => Or.inl) fun _ => id

variable (source : String) (raw : RawNode)

/-! ## Names and types -/

/-- Only the scope is asked for. The name is a token. -/
theorem inside_scopedName : (scopedName source raw).Inside raw := by
  unfold scopedName
  refine .bind (inside_field "scope" (over_request .expression)) fun _ => ?_
  exact inside_checked raw _

/-- The bound is the last named child that is no annotation. -/
theorem inside_wildcard : (wildcard raw).Inside raw := by
  unfold wildcard
  refine .bind (inside_namedChild (fun p hp => ?_) (over_request .type)) fun _ => ?_
  · exact (List.mem_filter.mp (List.mem_of_getLast? hp)).1
  · exact inside_checked raw _

/-- Types of one token ask for nothing; the others for the types they are put together from. -/
theorem inside_typeBody : (typeBody source raw).Inside raw := by
  unfold typeBody
  split
  case h_7 =>
    -- a dotted type: what is before the first dot is lowered, the last name is selected
    split
    case h_1 qualifier second rest h =>
      have part : qualifier ∈ raw.parts := by
        apply raw.namedChildren_subset_parts
        rw [h]
        exact List.mem_cons_self
      exact .map ((over_request .type qualifier).inside part)
    case h_2 => exact inside_unsupported raw
  case h_8 =>
    -- a type with arguments
    refine .bind (inside_namedChild (fun _ => List.mem_of_find?_eq_some) (over_request .type))
      fun _ => ?_
    refine .bind (inside_listed (fun _ => RawNode.mem_parts_of_childOfTag?) (over_request .type))
      fun _ => ?_
    exact inside_checked raw _
  case h_9 =>
    -- an array type
    refine .bind (inside_field "element" (over_request .type)) fun _ => ?_
    split
    · exact .pure _
    · exact inside_checked raw _
  case h_10 =>
    -- a type with annotations: the type alone is lowered
    split
    case h_1 inner h =>
      have part : inner ∈ raw.parts := raw.namedChildren_subset_parts (List.mem_of_getLast? h)
      exact (over_request .type inner).inside part
    case h_2 => exact inside_unsupported raw
  case h_11 => exact inside_wildcard raw
  case h_12 => exact inside_scopedName source raw
  case h_13 => exact inside_unsupported raw
  -- types of one token, and names
  all_goals exact .pure _

/-! ## Modifiers and annotations -/

/-- The value of a pair is looked for among the parts of the pair, and whichever is found asks only for
nodes inside it. -/
theorem inside_namedValue {parts : List RawNode} (here : parts ⊆ raw.parts)
    (values : ∀ part ∈ parts, (annotationValue source part).Over part) :
    (namedValue source parts).Inside raw := by
  induction parts with
  | nil =>
    unfold namedValue
    exact .pure _
  | cons part rest ih =>
    rw [List.cons_subset] at here
    rw [List.forall_mem_cons] at values
    unfold namedValue
    split
    · exact (values.1.inside here.1).map
    · exact ih here.2 values.2

/-- A value can be a pair again, so this is said of the parts before it is said of the node. -/
theorem over_annotationValue : (annotationValue source raw).Over raw := by
  induction raw using RawNode.inductionOnParts with
  | node raw ih =>
    obtain ⟨label, parts⟩ := raw
    unfold annotationValue
    dsimp only
    split
    · split
      · exact over_unsupported _
      · have value := inside_namedValue source (.node label parts) (fun _ => id) ih
        exact .bind value.over fun _ => (inside_checked _ _).over
    · exact over_request .annotationValues _
    · exact (over_request .annotationUse _).map
    · exact (over_request .annotationUse _).map
    · exact over_request .expression _

/-- The values in braces are parts of the node. -/
theorem inside_annotationValuesBody : (annotationValuesBody source raw).Inside raw := by
  unfold annotationValuesBody
  refine .bind (inside_each raw.namedChildren_subset_parts (over_annotationValue source)) fun _ => ?_
  exact inside_checked raw _

/-- The name is a part, and the values are parts of a list that is one. -/
theorem inside_annotationBody : (annotationBody source raw).Inside raw := by
  unfold annotationBody
  refine .bind (inside_field "name" (over_request .expression)) fun _ => ?_
  refine .bind (inside_listed (fun _ => RawNode.mem_parts_of_field?) (over_annotationValue source))
    fun _ => ?_
  exact inside_checked raw _

/-- Annotations stand in a list, and only they are asked for. -/
theorem inside_modifiersOf : (modifiersOf source raw).Inside raw := by
  unfold modifiersOf
  split
  · exact .pure _
  · rename_i list h
    refine .map (Inside.of_part (p := list) ?_ (RawNode.mem_parts_of_childOfTag? h))
    refine inside_each ?_ (over_request .annotationUse)
    exact List.Subset.trans List.filter_sublist.subset list.namedChildren_subset_parts

/-! ## Variables and parameters -/

/-- An initializer asks for itself, as values in braces or as an expression. -/
theorem over_initializer : (initializer raw).Over raw := by
  unfold initializer
  split
  · exact over_request .arrayElements raw
  · exact over_request .expression raw

/-- The values in braces are parts of the node. -/
theorem inside_arrayElementsBody : (arrayElementsBody raw).Inside raw := by
  unfold arrayElementsBody
  refine .bind (inside_each raw.namedChildren_subset_parts over_initializer) fun _ => ?_
  exact inside_checked raw _

/-- The type has been lowered for the whole declaration, so only the value is left to ask for. -/
theorem inside_declarator (span : Span) (modifiers : Option Modifiers) (type : Option Expression) :
    (declarator source span modifiers type raw).Inside raw := by
  unfold declarator
  refine .bind (inside_field "value" over_initializer) fun _ => ?_
  exact inside_checked raw _

/-- Each variable is made from a declarator, which is a part of the declaration. -/
theorem inside_variableDeclarations : (variableDeclarations source raw).Inside raw := by
  unfold variableDeclarations
  refine .bind (inside_modifiersOf source raw) fun modifiers => ?_
  refine .bind (inside_field "type" (over_request .type)) fun type => ?_
  exact inside_each (raw.fields_subset_parts "declarator")
    fun p => (inside_declarator source p raw.span modifiers type).over

/-- The value comes from wherever the caller found it, as long as this is a part of the node. -/
theorem inside_declaredVariable {value : Option RawNode} (h : ∀ p, value = some p → p ∈ raw.parts) :
    (declaredVariable source raw value).Inside raw := by
  unfold declaredVariable
  refine .bind (inside_modifiersOf source raw) fun _ => ?_
  refine .bind (inside_field "type" (over_request .type)) fun _ => ?_
  refine .bind (inside_optional h (over_request .expression)) fun _ => ?_
  exact inside_checked raw _

/-- The value, if there is any, stands inside the declarator, two levels below. -/
theorem inside_spreadParameter : (spreadParameter source raw).Inside raw := by
  unfold spreadParameter
  refine .bind (inside_modifiersOf source raw) fun _ => ?_
  refine .bind (inside_namedChild (fun _ => List.mem_of_find?_eq_some) (over_request .type))
    fun _ => ?_
  refine .bind (.optional fun p hp => ?_) fun _ => ?_
  · obtain ⟨declarator, hd, hp⟩ := Option.bind_eq_some_iff.mp hp
    exact ((over_initializer p).inside (RawNode.mem_parts_of_field? hp)).of_part
      (RawNode.mem_parts_of_childOfTag? hd)
  · exact inside_checked raw _

/-- Of the two sorts of parameters, neither asks for the node itself. -/
theorem inside_parameter : (parameter source raw).Inside raw := by
  unfold parameter
  split
  · exact inside_declaredVariable source raw (fun _ => nofun)
  · exact inside_spreadParameter source raw
  · exact inside_unsupported raw

/-- The parameters are parts of a list that is a part. -/
theorem inside_parameters {list : Option RawNode} (found : ∀ p, list = some p → p ∈ raw.parts) :
    (parameters source list).Inside raw :=
  inside_listed found fun p => (inside_parameter source p).over

/-! ## Expressions -/

/-- An unknown operator is refused where it stands, which is inside the node. -/
theorem inside_unaryOperation : (unaryOperation source raw).Inside raw := by
  unfold unaryOperation
  split
  · exact inside_unsupported raw
  · rename_i operator h
    split
    · exact (inside_unsupported operator).of_part (RawNode.mem_parts_of_field? h)
    · refine .bind (inside_field "operand" (over_request .expression)) fun _ => ?_
      exact inside_checked raw _

/-- Two operands, and an operator that may be refused. -/
theorem inside_binaryOperation : (binaryOperation source raw).Inside raw := by
  unfold binaryOperation
  split
  · exact inside_unsupported raw
  · rename_i operator h
    split
    · exact (inside_unsupported operator).of_part (RawNode.mem_parts_of_field? h)
    · refine .bind (inside_field "left" (over_request .expression)) fun _ => ?_
      refine .bind (inside_field "right" (over_request .expression)) fun _ => ?_
      exact inside_checked raw _

/-- A target and a value, and an operator that may be refused. -/
theorem inside_assignmentOperation : (assignmentOperation source raw).Inside raw := by
  unfold assignmentOperation
  split
  · exact inside_unsupported raw
  · rename_i operator h
    split
    · exact (inside_unsupported operator).of_part (RawNode.mem_parts_of_field? h)
    · refine .bind (inside_field "left" (over_request .expression)) fun _ => ?_
      refine .bind (inside_field "right" (over_request .expression)) fun _ => ?_
      exact inside_checked raw _

/-- The operator is the first token `++` or `--`, and the operand the first named child. -/
theorem inside_updateOperation : (updateOperation source raw).Inside raw := by
  unfold updateOperation
  dsimp only
  split
  · exact inside_unsupported raw
  · rename_i operator h
    split
    · exact (inside_unsupported operator).of_part
        (raw.tokens_subset_parts (List.mem_of_find?_eq_some h))
    · refine .bind (inside_namedChild (fun _ => List.mem_of_head?) (over_request .expression))
        fun _ => ?_
      exact inside_checked raw _

/-- A pattern is refused where it stands, under either name. -/
theorem inside_instanceOfTest : (instanceOfTest source raw).Inside raw := by
  unfold instanceOfTest
  split
  · rename_i pattern h
    rcases Option.or_eq_some_iff.mp h with h | ⟨-, h⟩
    · exact (inside_unsupported pattern).of_part (RawNode.mem_parts_of_field? h)
    · exact (inside_unsupported pattern).of_part (RawNode.mem_parts_of_field? h)
  · split
    · exact inside_unsupported raw
    · refine .bind (inside_field "left" (over_request .expression)) fun _ => ?_
      refine .bind (inside_field "right" (over_request .type)) fun _ => ?_
      exact inside_checked raw _

/-- There is at most one type, since more than one are refused. -/
theorem inside_castExpression : (castExpression raw).Inside raw := by
  unfold castExpression
  dsimp only
  split
  · exact inside_unsupported raw
  · refine .bind (inside_optional (fun p hp => ?_) (over_request .type)) fun _ => ?_
    · exact raw.fields_subset_parts "type" (List.mem_of_head? hp)
    · refine .bind (inside_field "value" (over_request .expression)) fun _ => ?_
      exact inside_checked raw _

/-- What a field is selected from is asked for. -/
theorem inside_fieldAccess : (fieldAccess source raw).Inside raw := by
  unfold fieldAccess
  refine .bind (inside_field "object" (over_request .expression)) fun _ => ?_
  exact inside_checked raw _

/-- Arguments are expressions in a list. -/
theorem inside_arguments_field (name : String) : (arguments (raw.field? name)).Inside raw :=
  inside_listed (fun _ => RawNode.mem_parts_of_field?) (over_request .expression)

/-- Type arguments are types in a list. -/
theorem inside_typeArguments_field (name : String) : (typeArguments (raw.field? name)).Inside raw :=
  inside_listed (fun _ => RawNode.mem_parts_of_field?) (over_request .type)

/-- The object, type arguments and arguments, in the order of the lowering. -/
theorem inside_methodCall : (methodCall source raw).Inside raw := by
  unfold methodCall
  refine .bind (inside_field "object" (over_request .expression)) fun _ => ?_
  refine .bind (inside_typeArguments_field raw "type_arguments") fun _ => ?_
  refine .bind (inside_arguments_field raw "arguments") fun _ => ?_
  exact inside_checked raw _

/-- Type arguments are refused at their list. -/
theorem inside_methodReference : (methodReference source raw).Inside raw := by
  unfold methodReference
  split
  · rename_i list h
    exact (inside_unsupported list).of_part (RawNode.mem_parts_of_childOfTag? h)
  · refine .bind (inside_namedChild (fun _ => List.mem_of_head?) (over_request .expression))
      fun _ => ?_
    exact inside_checked raw _

/-- The type is the first named child. -/
theorem inside_classLiteral : (classLiteral source raw).Inside raw := by
  unfold classLiteral
  split
  · rename_i type keyword h _
    exact .map ((over_request .type type).inside
      (raw.namedChildren_subset_parts (List.mem_of_head? h)))
  · exact inside_unsupported raw

/-- The enclosing instance is the first child, if that is a named one. -/
theorem inside_instanceCreation : (instanceCreation raw).Inside raw := by
  unfold instanceCreation
  refine .bind (inside_optional (fun p hp => ?_) (over_request .expression)) fun _ => ?_
  · rw [Option.filter_eq_some_iff] at hp
    exact raw.children_subset_parts (List.mem_of_head? hp.1)
  · refine .bind (inside_typeArguments_field raw "type_arguments") fun _ => ?_
    refine .bind (inside_field "type" (over_request .type)) fun _ => ?_
    refine .bind (inside_arguments_field raw "arguments") fun _ => ?_
    refine .bind (inside_childOfTag "class_body" (over_request .anonymousClass)) fun _ => ?_
    exact inside_checked raw _

/-- The size is the last named child that is no annotation. -/
theorem inside_arraySize : (arraySize raw).Inside raw := by
  unfold arraySize
  dsimp only
  split
  · rename_i size h
    exact (over_request .expression size).inside
      (raw.namedChildren_subset_parts (List.mem_filter.mp (List.mem_of_getLast? h)).1)
  · exact inside_unsupported raw

/-- An element asks for itself, as inner braces or as an expression. -/
theorem over_arrayElement : (arrayElement raw).Over raw := by
  unfold arrayElement
  split
  · exact over_request .innerElements raw
  · exact over_request .expression raw

/-- The elements in inner braces are parts of the node. -/
theorem inside_innerElementsBody : (innerElementsBody raw).Inside raw := by
  unfold innerElementsBody
  refine .bind (inside_each raw.namedChildren_subset_parts over_arrayElement) fun _ => ?_
  exact inside_checked raw _

/-- Sizes are asked for inside the pairs of brackets that hold one. -/
theorem inside_arrayCreation : (arrayCreation raw).Inside raw := by
  unfold arrayCreation
  refine .bind (inside_field "type" (over_request .type)) fun _ => ?_
  refine .bind (inside_each ?_ fun p => (inside_arraySize p).over) fun _ => ?_
  · exact List.Subset.trans List.filter_sublist.subset (raw.fields_subset_parts "dimensions")
  · refine .bind (inside_listed (fun _ => RawNode.mem_parts_of_field?) over_arrayElement) fun _ => ?_
    exact inside_checked raw _

/-- A body asks for itself, as a list of statements or as an expression. -/
theorem over_lambdaBody : (lambdaBody raw).Over raw := by
  unfold lambdaBody
  split
  · exact (over_block raw).map
  · exact (over_request .expression raw).map

/-- Bare names ask for nothing, parameters with types for what is in them. -/
theorem inside_lambdaParameters {list : Option RawNode}
    (found : ∀ p, list = some p → p ∈ raw.parts) : (lambdaParameters source list).Inside raw := by
  unfold lambdaParameters
  split
  · exact .pure _
  · split
    · exact .pure _
    · exact .pure _
    · exact (inside_parameters source raw found).map

/-- Parameters that are parts, and a body. -/
theorem inside_lambdaExpression : (lambdaExpression source raw).Inside raw := by
  unfold lambdaExpression
  refine .bind (inside_lambdaParameters source raw fun _ => RawNode.mem_parts_of_field?) fun _ => ?_
  refine .bind (inside_field "body" over_lambdaBody) fun _ => ?_
  exact inside_checked raw _

/-- An expression that is no literal, by the tag. A type in its place is lowered as a type of the same
node. -/
theorem inside_compoundBody : (compoundBody source raw).Inside raw := by
  unfold compoundBody
  split
  case h_4 => exact inside_fieldAccess source raw
  case h_5 => exact inside_scopedName source raw
  case h_6 =>
    -- an expression in parentheses
    refine .bind (inside_namedChild (fun _ => List.mem_of_head?) (over_request .expression))
      fun _ => ?_
    exact inside_checked raw _
  case h_7 => exact inside_methodCall source raw
  case h_8 => exact inside_instanceCreation raw
  case h_9 => exact inside_arrayCreation raw
  case h_10 =>
    -- an access to an array
    refine .bind (inside_field "array" (over_request .expression)) fun _ => ?_
    refine .bind (inside_field "index" (over_request .expression)) fun _ => ?_
    exact inside_checked raw _
  case h_11 => exact inside_castExpression raw
  case h_12 => exact inside_instanceOfTest source raw
  case h_13 =>
    -- a conditional
    refine .bind (inside_field "condition" (over_request .expression)) fun _ => ?_
    refine .bind (inside_field "consequence" (over_request .expression)) fun _ => ?_
    refine .bind (inside_field "alternative" (over_request .expression)) fun _ => ?_
    exact inside_checked raw _
  case h_14 => exact inside_unaryOperation source raw
  case h_15 => exact inside_binaryOperation source raw
  case h_16 => exact inside_assignmentOperation source raw
  case h_17 => exact inside_updateOperation source raw
  case h_18 => exact inside_lambdaExpression source raw
  case h_19 => exact inside_methodReference source raw
  case h_20 => exact inside_classLiteral source raw
  case h_21 =>
    -- a type in the place of an expression
    split
    · exact inside_typeBody source raw
    · exact inside_unsupported raw
  -- names
  all_goals exact .pure _

/-- A literal asks for nothing. -/
theorem inside_expressionBody : (expressionBody source raw).Inside raw := by
  unfold expressionBody
  split
  · exact .pure _
  · exact inside_compoundBody source raw

/-! ## Types and their members -/

/-- The bounds stand in a list of their own. -/
theorem inside_typeParameter : (typeParameter source raw).Inside raw := by
  unfold typeParameter
  refine .bind (inside_listed (fun _ => RawNode.mem_parts_of_childOfTag?) (over_request .type))
    fun _ => ?_
  exact inside_checked raw _

/-- Type parameters are not asked for but lowered on the spot, inside their list. -/
theorem inside_typeParameters_field (name : String) :
    (typeParameters source (raw.field? name)).Inside raw := by
  unfold typeParameters
  split
  · exact .pure _
  · rename_i list h
    refine Inside.of_part (p := list) ?_ (RawNode.mem_parts_of_field? h)
    exact inside_each (list.childrenOfTag_subset_parts "type_parameter")
      fun p => (inside_typeParameter source p).over

/-- What a method is made of is looked up part by part. -/
theorem inside_method (kind : CallableKind) : (method source kind raw).Inside raw := by
  unfold method
  refine .bind (inside_modifiersOf source raw) fun _ => ?_
  refine .bind (inside_typeParameters_field source raw "type_parameters") fun _ => ?_
  refine .bind (inside_field "type" (over_request .type)) fun _ => ?_
  refine .bind (inside_parameters source raw fun _ => RawNode.mem_parts_of_field?) fun _ => ?_
  refine .bind (inside_listed (fun _ => RawNode.mem_parts_of_childOfTag?) (over_request .type))
    fun _ => ?_
  refine .bind (inside_field "body" over_block) fun _ => ?_
  refine .bind (inside_field "value" (over_annotationValue source)) fun _ => ?_
  exact inside_checked raw _

/-- The body is asked for as an anonymous class, at the node of the body. -/
theorem inside_enumConstant : (enumConstant source raw).Inside raw := by
  unfold enumConstant
  refine .bind (inside_modifiersOf source raw) fun _ => ?_
  refine .bind (inside_arguments_field raw "arguments") fun _ => ?_
  refine .bind (inside_field "body" (over_request .anonymousClass)) fun _ => ?_
  exact inside_checked raw _

/-- The block is a part of the node. -/
theorem inside_staticInitializer : (staticInitializer raw).Inside raw := by
  unfold staticInitializer
  exact .map (inside_childOfTag "block" (over_request .statements))

/-- A member that is a type or a block is asked for at its own node; others are lowered on the spot. -/
theorem over_member : (member source raw).Over raw := by
  unfold member
  split
  · exact (inside_variableDeclarations source raw).over.map
  · exact (inside_variableDeclarations source raw).over.map
  · exact (inside_method source raw .method).over.map
  · exact (inside_method source raw .method).over.map
  · exact (inside_method source raw .constructor).over.map
  · exact (inside_enumConstant source raw).over.map
  · exact (over_request .statements raw).map
  · exact (inside_staticInitializer raw).over.map
  · split
    · exact (over_request .typeDeclaration raw).map
    · exact over_unsupported raw

/-- An entry of a body can stand one level deeper than a part of the body, in the section behind the
constants of an enum; it is strictly inside all the same. -/
theorem inside_members : (members source raw).Inside raw := by
  unfold members
  refine .gather fun entry h => ?_
  obtain ⟨q, ⟨p, hp, hq⟩, rfl | rfl⟩ := exists_node_of_mem_bodyEntries h
  · exact (over_member source q).mono (fun _ _ hs => ⟨p, hp, RawNode.mem_nodes_trans hq hs⟩)
      fun _ refusal => refusal.mono (RawNode.mem_nodes_of_part hp hq)
  · exact .pure _

/-- An anonymous class is asked for at its body. -/
theorem inside_anonymousClassBody : (anonymousClassBody source raw).Inside raw := by
  unfold anonymousClassBody
  exact .map (inside_members source raw)

/-- The superclass and the interfaces stand inside clauses of the header, and the members inside the
body. -/
theorem inside_typeDeclarationBody : (typeDeclarationBody source raw).Inside raw := by
  unfold typeDeclarationBody
  split
  · exact inside_unsupported raw
  · split
    · rename_i permits h
      exact (inside_unsupported permits).of_part (RawNode.mem_parts_of_field? h)
    · refine .bind (inside_modifiersOf source raw) fun _ => ?_
      refine .bind (inside_typeParameters_field source raw "type_parameters") fun _ => ?_
      refine .bind (.optional fun p hp => ?_) fun _ => ?_
      · obtain ⟨clause, hc, hp⟩ := Option.bind_eq_some_iff.mp hp
        exact ((over_request .type p).inside
          (clause.namedChildren_subset_parts (List.mem_of_head? hp))).of_part
          (RawNode.mem_parts_of_field? hc)
      · refine .bind (.listed fun list hl p hp => ?_) fun _ => ?_
        · exact .request ((encloses_of_superInterfaces hl).part (list.namedChildren_subset_parts hp))
        · refine .bind (inside_field "body" fun p => (inside_members source p).over) fun _ => ?_
          exact inside_checked raw _

/-! ## Statements -/

/-- A call of another constructor asks for what a call of a method asks for. -/
theorem inside_constructorCall : (constructorCall source raw).Inside raw := by
  unfold constructorCall
  refine .bind (inside_field "object" (over_request .expression)) fun _ => ?_
  refine .bind (inside_typeArguments_field raw "type_arguments") fun _ => ?_
  refine .bind (inside_arguments_field raw "arguments") fun _ => ?_
  exact .map (inside_checked raw _)

/-- A raw statement that is nothing special is asked for at its own node. -/
theorem over_statementsOf : (statementsOf source raw).Over raw := by
  unfold statementsOf
  split
  · exact (inside_variableDeclarations source raw).over.map
  · exact (inside_constructorCall source raw).over.map
  · split
    · exact (over_request .typeDeclaration raw).map
    · exact (over_request .statement raw).map

/-- Variables and calls of constructors are made of what is inside them. -/
theorem inside_statementsOf (h : raw.tag = "local_variable_declaration" ∨
    raw.tag = "explicit_constructor_invocation") : (statementsOf source raw).Inside raw := by
  unfold statementsOf
  split
  · exact (inside_variableDeclarations source raw).map
  · exact (inside_constructorCall source raw).map
  · rename_i noVariable noCall
    exact absurd h (not_or.mpr ⟨noVariable, noCall⟩)

/-- A token asks for nothing. -/
theorem over_blockEntry : (blockEntry source raw).Over raw := by
  unfold blockEntry
  split
  · exact over_statementsOf source raw
  · split
    · exact .pure _
    · exact .pure _

/-- A list of statements asks for its children, each of which is a part. -/
theorem inside_statementList : (statementList source raw).Inside raw := by
  unfold statementList
  exact .gather fun p hp => (over_blockEntry source p).inside (raw.children_subset_parts hp)

/-- What is inside the parentheses of a part. -/
theorem inside_parenthesized {part : Option RawNode} (found : ∀ p, part = some p → p ∈ raw.parts) :
    (optional expression (part.bind insideParentheses)).Inside raw := by
  refine .optional fun q hq => ?_
  obtain ⟨p, hp, hq⟩ := Option.bind_eq_some_iff.mp hq
  exact .request ⟨p, found p hp, mem_nodes_of_insideParentheses hq⟩

/-- A condition stands in parentheses under its name. -/
theorem inside_condition : (condition raw).Inside raw :=
  inside_parenthesized raw fun _ => RawNode.mem_parts_of_field?

/-- An expression in the place of a statement is asked for at its own node. -/
theorem over_bareExpression : (bareExpression raw).Over raw := by
  unfold bareExpression
  exact .map (over_request .expression raw)

/-- The head of a loop holds variables or expressions. -/
theorem over_forInitializer : (forInitializer source raw).Over raw := by
  unfold forInitializer
  split
  · exact (inside_variableDeclarations source raw).over.map
  · exact (over_bareExpression raw).map

/-- Initializers, a condition, updates and a body, all of them parts. -/
theorem inside_forLoop : (forLoop source raw).Inside raw := by
  unfold forLoop
  refine .bind (.gather fun p hp => ?_) fun _ => ?_
  · exact (over_forInitializer source p).inside (raw.fields_subset_parts "init" hp)
  · refine .bind (inside_field "condition" (over_request .expression)) fun _ => ?_
    refine .bind (inside_each (raw.fields_subset_parts "update") over_bareExpression) fun _ => ?_
    refine .bind (inside_field "body" (over_request .statement)) fun _ => ?_
    exact inside_checked raw _

/-- The variable is declared by the parts of the loop itself. -/
theorem inside_forEachLoop : (forEachLoop source raw).Inside raw := by
  unfold forEachLoop
  refine .bind (inside_declaredVariable source raw fun _ => nofun) fun _ => ?_
  refine .bind (inside_field "value" (over_request .expression)) fun _ => ?_
  refine .bind (inside_field "body" (over_request .statement)) fun _ => ?_
  exact inside_checked raw _

/-- A resource is declared by its own parts. -/
theorem inside_resource : (resource source raw).Inside raw := by
  unfold resource
  split
  · exact inside_unsupported raw
  · exact inside_declaredVariable source raw fun _ => RawNode.mem_parts_of_field?

/-- The types stand in a list. Joining them can be refused, at the list. -/
theorem inside_caughtType : (caughtType raw).Inside raw := by
  unfold caughtType
  split
  · exact .pure _
  · rename_i list h
    refine Inside.of_part (p := list) ?_ (RawNode.mem_parts_of_childOfTag? h)
    refine .bind (inside_each list.namedChildren_subset_parts (over_request .type)) fun _ => ?_
    split
    · exact .map (inside_checked list _)
    · exact .pure _

/-- Modifiers and the caught type. -/
theorem inside_catchParameter : (catchParameter source raw).Inside raw := by
  unfold catchParameter
  refine .bind (inside_modifiersOf source raw) fun _ => ?_
  refine .bind (inside_caughtType raw) fun _ => ?_
  exact inside_checked raw _

/-- The parameter and the block are parts. -/
theorem inside_catchClause : (catchClause source raw).Inside raw := by
  unfold catchClause
  refine .bind (inside_childOfTag "catch_formal_parameter"
    fun p => (inside_catchParameter source p).over) fun _ => ?_
  refine .bind (inside_field "body" over_block) fun _ => ?_
  exact inside_checked raw _

/-- Resources stand in a list and the last block in a clause, both one level deeper than a part. -/
theorem inside_tryBlock : (tryBlock source raw).Inside raw := by
  unfold tryBlock
  refine .bind (.each fun p hp => ?_) fun _ => ?_
  · obtain ⟨list, hl, hp⟩ := encloses_of_mem_childrenOfTag hp
    exact ((inside_resource source p).over.mono (fun _ _ hq => ⟨list, hl, RawNode.mem_nodes_trans hp hq⟩)
      fun _ refusal => refusal.mono (RawNode.mem_nodes_of_part hl hp))
  · refine .bind (inside_field "body" over_block) fun _ => ?_
    refine .bind (inside_each (raw.childrenOfTag_subset_parts "catch_clause")
      fun p => (inside_catchClause source p).over) fun _ => ?_
    refine .bind (.optional fun p hp => ?_) fun _ => ?_
    · obtain ⟨clause, hc, hp⟩ := Option.bind_eq_some_iff.mp hp
      exact ((over_block p).inside (RawNode.mem_parts_of_childOfTag? hp)).of_part
        (RawNode.mem_parts_of_childOfTag? hc)
    · exact inside_checked raw _

/-- A value of a label is a part. Four sorts of patterns are refused where they stand. -/
theorem inside_caseLabel : (caseLabel raw).Inside raw := by
  unfold caseLabel
  refine .map (inside_each raw.namedChildren_subset_parts fun child => ?_)
  split
  · exact over_unsupported child
  · exact over_unsupported child
  · exact over_unsupported child
  · exact over_unsupported child
  · exact over_request .expression child

/-- What stands in a group is a label or a statement. -/
theorem over_caseEntry : (caseEntry source raw).Over raw := by
  unfold caseEntry
  split
  · exact (inside_caseLabel raw).over.map
  · exact (over_blockEntry source raw).map

/-- All children of a group are parts of it. -/
theorem inside_caseGroupBody : (caseGroupBody source raw).Inside raw := by
  unfold caseGroupBody
  exact .map (inside_each raw.children_subset_parts (over_caseEntry source))

/-- Each group is asked for at its own node, whatever labels are pending. The induction is on the
groups. -/
theorem inside_caseGroups (pending : Option (Span × List CaseLabel)) {groups : List RawNode}
    (h : groups ⊆ raw.parts) : (caseGroups pending groups).Inside raw := by
  induction groups generalizing pending with
  | nil =>
    unfold caseGroups
    split
    · exact .pure _
    · exact .map (inside_checked raw _)
  | cons group rest ih =>
    rw [List.cons_subset] at h
    unfold caseGroups
    split
    · exact (inside_unsupported group).of_part h.1
    · refine .bind ((over_request .caseGroup group).inside h.1) fun _ => ?_
      dsimp only
      split
      · exact ih _ h.2
      · exact .bind (inside_checked raw _) fun _ => (ih none h.2).map

/-- The groups are parts of the body, which is a part of the switch. -/
theorem inside_switchStatement : (switchStatement raw).Inside raw := by
  unfold switchStatement
  refine .bind (inside_condition raw) fun _ => ?_
  refine .bind (?_ : Inside raw _) fun _ => inside_checked raw _
  cases h : raw.field? "body" with
  | none => exact inside_caseGroups raw none (List.nil_subset _)
  | some body =>
    exact (inside_caseGroups body none body.namedChildren_subset_parts).of_part
      (RawNode.mem_parts_of_field? h)

/-- Picking the only statement asks for nothing more. -/
theorem inside_soleStatement {made : Lowering (List Statement)} (h : made.Inside raw) :
    (soleStatement raw made).Inside raw := by
  unfold soleStatement
  refine .bind h fun _ => ?_
  split
  · exact .pure _
  · exact inside_unsupported raw

/-- A named statement asks only for nodes strictly inside it, or for itself as a type
declaration. -/
theorem namedStatementBody_confined :
    (namedStatementBody source raw).Confined (Construct.statement.MayAsk raw) raw.Refusal := by
  have inside {x : Lowering Statement} (h : x.Inside raw) :
      x.Confined (Construct.statement.MayAsk raw) raw.Refusal := h.mayAsk .statement
  unfold namedStatementBody
  split
  case h_1 => exact inside (.map (inside_statementList source raw))
  case h_2 =>
    -- an expression statement
    refine inside (.bind (inside_namedChild (fun _ => List.mem_of_head?) (over_request .expression))
      fun _ => ?_)
    exact .map (inside_checked raw _)
  case h_3 =>
    -- a labeled statement
    refine inside (.bind (inside_namedChild (fun _ => List.mem_of_getElem?)
      (over_request .statement)) fun _ => ?_)
    exact inside_checked raw _
  case h_4 =>
    -- `if`
    refine inside (.bind (inside_condition raw) fun _ => ?_)
    refine .bind (inside_field "consequence" (over_request .statement)) fun _ => ?_
    refine .bind (inside_field "alternative" (over_request .statement)) fun _ => ?_
    exact inside_checked raw _
  case h_5 =>
    -- `while`
    refine inside (.bind (inside_condition raw) fun _ => ?_)
    refine .bind (inside_field "body" (over_request .statement)) fun _ => ?_
    exact inside_checked raw _
  case h_6 =>
    -- `do`
    refine inside (.bind (inside_field "body" (over_request .statement)) fun _ => ?_)
    refine .bind (inside_condition raw) fun _ => ?_
    exact inside_checked raw _
  case h_7 => exact inside (inside_forLoop source raw)
  case h_8 => exact inside (inside_forEachLoop source raw)
  case h_11 =>
    -- `return`
    exact inside (.map (inside_namedChild (fun _ => List.mem_of_head?) (over_request .expression)))
  case h_12 =>
    -- `throw`
    refine inside (.bind (inside_namedChild (fun _ => List.mem_of_head?) (over_request .expression))
      fun _ => ?_)
    exact inside_checked raw _
  case h_13 =>
    -- `assert`
    refine inside (.bind (inside_namedChild (fun _ => List.mem_of_head?) (over_request .expression))
      fun _ => ?_)
    refine .bind (inside_namedChild (fun _ => List.mem_of_getElem?) (over_request .expression))
      fun _ => ?_
    exact inside_checked raw _
  case h_14 =>
    -- `synchronized`
    refine inside (.bind (inside_parenthesized raw fun _ => RawNode.mem_parts_of_childOfTag?)
      fun _ => ?_)
    refine .bind (inside_field "body" over_block) fun _ => ?_
    exact inside_checked raw _
  case h_15 | h_16 => exact inside (inside_tryBlock source raw)
  case h_17 => exact inside (inside_switchStatement raw)
  case h_18 h =>
    exact inside (inside_soleStatement raw (inside_statementsOf source raw (.inl h)))
  case h_19 h =>
    exact inside (inside_soleStatement raw (inside_statementsOf source raw (.inr h)))
  case h_20 =>
    -- the exception: a type declaration is asked for at the node itself
    split
    · exact .map (.request (.inr ⟨rfl, rfl, rfl⟩))
    · exact inside (inside_unsupported raw)
  -- jumps ask for nothing
  all_goals exact .pure _

/-- A token asks for nothing: it is an empty statement or is refused. -/
theorem statementBody_confined :
    (statementBody source raw).Confined (Construct.statement.MayAsk raw) raw.Refusal := by
  unfold statementBody
  split
  · exact namedStatementBody_confined source raw
  · split
    · exact .pure _
    · exact (inside_unsupported raw).mayAsk .statement

/-! ## All constructs -/

/-- **A construct asks for smaller ones.** What it requests lies strictly inside its node, or is the
type declaration that a statement is. -/
theorem body_confined (construct : Construct) :
    (body source construct raw).Confined (construct.MayAsk raw) raw.Refusal := by
  cases construct with
  | expression => exact (inside_expressionBody source raw).mayAsk _
  | type => exact (inside_typeBody source raw).mayAsk _
  | statement => exact statementBody_confined source raw
  | statements => exact (inside_statementList source raw).mayAsk _
  | typeDeclaration => exact (inside_typeDeclarationBody source raw).mayAsk _
  | anonymousClass => exact (inside_anonymousClassBody source raw).mayAsk _
  | annotationUse => exact (inside_annotationBody source raw).mayAsk _
  | caseGroup => exact (inside_caseGroupBody source raw).mayAsk _
  | arrayElements => exact (inside_arrayElementsBody raw).mayAsk _
  | innerElements => exact (inside_innerElementsBody raw).mayAsk _
  | annotationValues => exact (inside_annotationValuesBody source raw).mayAsk _

/-! ## Whole sources -/

/-- The name is the only part that is asked for. -/
theorem inside_importDeclaration : (importDeclaration source raw).Inside raw := by
  unfold importDeclaration
  refine .bind (inside_namedChild (fun _ => List.mem_of_find?_eq_some) (over_request .expression))
    fun _ => ?_
  exact inside_checked raw _

/-- A part of a package is asked for at its own node. -/
theorem over_packagePart : (packagePart raw).Over raw := by
  unfold packagePart
  split
  · exact (over_request .annotationUse raw).map
  · exact (over_request .expression raw).map

/-- A type at the top of a source is asked for at its own node. -/
theorem over_unitParts : (unitParts source raw).Over raw := by
  unfold unitParts
  split
  · exact (inside_each raw.namedChildren_subset_parts over_packagePart).over
  · exact (inside_importDeclaration source raw).over.map
  · split
    · exact (over_request .typeDeclaration raw).map
    · exact over_unsupported raw

/-- All declarations are named children of the root. -/
theorem inside_compilationUnit : (compilationUnit source raw).Inside raw := by
  unfold compilationUnit
  refine .bind (.gather fun p hp => ?_) fun _ => ?_
  · exact (over_unitParts source p).inside (raw.namedChildren_subset_parts hp)
  · exact inside_checked raw _

/-- The expression stands inside the only statement, which is a part of the root. -/
theorem inside_soleExpression : (soleExpression raw).Inside raw := by
  unfold soleExpression
  split
  · rename_i only h
    split
    · split
      · rename_i inner rest hi
        have part : only ∈ raw.parts := raw.namedChildren_subset_parts (h ▸ List.mem_singleton_self _)
        have named : inner ∈ only.namedChildren := hi ▸ List.mem_cons_self
        exact ((over_request .expression inner).inside
          (only.namedChildren_subset_parts named)).of_part part
      · exact .refuse (.snippetShape _ _)
    · exact .refuse (.snippetShape _ _)
  · exact .refuse (.snippetShape _ _)

end Lowering

end JavaSyntax
