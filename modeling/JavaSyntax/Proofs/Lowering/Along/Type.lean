import JavaSyntax.Proofs.Lowering.Along.Basic

/-!
# Types, annotations and variables along the source

One lemma for each form: its parts stand along the groups of a row, and it starts where its node does.

A variable needs most care. All variables of one declaration start where it starts, each with a type of
its own, so that they are level and not in turn; inside of each one the shared modifiers and the shared
type come first and its own name after them. A variable that is declared alone starts with whichever of
its parts comes first, so it stands along its modifiers and its type rather than along its node.
-/

namespace JavaSyntax

namespace Lowering

namespace Orderly

variable {root raw : RawNode} {source : String} {below : Answers} (o : Orderly root below)

include o

/-! ## Types -/

/-- A type of each form stands along its node. A type that is put together starts with its first part.
-/
theorem typeForm (here : raw ∈ root.nodes) {e : Expression}
    (form : TypeForm source below raw e) : Along [raw] [e.node] := by
  have held {p : RawNode} (hp : p ∈ raw.namedChildren) : p ∈ root.nodes :=
    RawNode.inner_of_namedChildren here hp
  cases form with
  | primitive => exact o.leaf here rfl rfl
  | name => exact o.identifier here source
  | @scopedType qualifier second scope rest tag named given =>
    have order := (o.sequenced raw here).pairwise_of_sublist raw.namedChildren_sublist_parts
    rw [named, List.pairwise_cons] at order
    -- the name is the last child, and so comes after the qualifier
    have last : rest.getLastD second ∈ second :: rest := List.getLastD_mem_cons
    have first : qualifier ∈ raw.namedChildren := named ▸ List.mem_cons_self
    refine o.inside here (List.forall_mem_singleton.mpr (raw.namedChildren_subset_nodes first)) ?_
    refine o.select source (held (named ▸ List.mem_cons_of_mem _ last))
      (o.type _ (held first) _ given) ?_
    exact List.forall_mem_singleton.mpr (order.1 _ last)
  | generic tag given types =>
    have base := o.type.part (fun _ found => held (List.mem_of_find?_eq_some found)) given
    have order := (o.sequenced raw here).row tag List.mem_cons_self
    exact o.whole here rfl
      (.flatten order (.cons base (.cons (o.itemsChild here o.type types) .nil))) rfl
  -- brackets add layers and leave the start where it is
  | array tag given =>
    exact o.inside here (fun _ => RawNode.mem_nodes_of_mem_field)
      ((o.type.field here given).foldl_arrayOf _)
  | annotated tag last given =>
    have inner := List.mem_of_getLast? last
    exact o.inside here (List.forall_mem_singleton.mpr (raw.namedChildren_subset_nodes inner))
      (o.type _ (held inner) _ given)
  | wildcard tag given bounded =>
    have bound := o.type.part (fun _ found =>
      held (List.mem_filter.mp (List.mem_of_getLast? found)).1) given
    exact o.whole here rfl bound (List.append_nil _).symm
  | scopedName tag given named =>
    have order := (o.sequenced raw here).row tag List.mem_cons_self
    exact o.whole here rfl (.flatten order
      (.cons (o.expression.field here given) (.cons (o.nameField here source named) .nil))) rfl

/-- The type of a declaration, with brackets that follow elsewhere. -/
theorem bracketedField (here : raw ∈ root.nodes) {base : Option Expression} (closings : List RawNode)
    (given : Option.Rel (Gives below typeExpression) (raw.field? "type") base) :
    Along (raw.field? "type").toList
      (slotOf Expression.node (base.map fun type => closings.foldl arrayOf type)) := by
  cases base with
  | none => exact .nil
  | some type => exact (o.type.field here given).foldl_arrayOf closings

/-! ## Modifiers, annotations and values -/

/-- Annotations among modifiers, in their order; the keywords between them are no nodes. -/
theorem modifiers : Keeps root (ModifiersForm source below) fun m => [.modifiers m] := by
  rintro list here m ⟨annotations, given, rfl⟩
  exact o.whole here rfl (o.each here o.annotationUse
    (List.filter_sublist.trans list.namedChildren_sublist_parts) given) (List.append_nil _).symm

/-- A pair of an annotation is a value, and may hold another one. -/
theorem annotationValue : Keeps root (Gives below (annotationValue source)) fun e => [e.node] := by
  intro raw here e made
  -- the value of a pair is lowered at once, not asked for, so the induction is on the raw tree
  induction raw using RawNode.inductionOnParts generalizing e with
  | node raw ih =>
    cases annotationValue_form made with
    | pair tag equals named given =>
      have order := (o.sequenced raw here).row tag List.mem_cons_self
      obtain ⟨v, found, gives⟩ := exists_of_rel_some given
      have value := ih v (RawNode.mem_parts_of_field? found)
        (RawNode.inner_of_field? here found) _ gives
      exact o.whole here rfl (.flatten order (.cons (o.nameField here source named)
        (.cons (value.of_mem (RawNode.mem_toList found)) .nil))) rfl
    | values given => exact o.asked .annotationValues raw here _ given
    | annotationUse given => exact o.annotationUse raw here _ given
    | expression given => exact o.expression raw here _ given

/-- A value of a variable, in either form. -/
theorem initializer : Keeps root (Gives below initializer) fun e => [e.node] := by
  intro raw here e made
  rcases initializer_form made with given | given
  · exact o.asked .arrayElements raw here e given
  · exact o.expression raw here e given

/-- An element of an array, in either form. -/
theorem arrayElement : Keeps root (Gives below arrayElement) fun e => [e.node] := by
  intro raw here e made
  rcases arrayElement_form made with given | given
  · exact o.asked .innerElements raw here e given
  · exact o.expression raw here e given

/-- The statements of a block stand along it. -/
theorem block : Keeps root (Gives below block) fun b => [.block b] := by
  intro raw here b made
  obtain ⟨body, given, rfl⟩ := block_form made
  exact o.whole here rfl (o.statements raw here body given) (List.append_nil _).symm

/-! ## Variables and parameters -/

/-- What a declarator declares: a name, and the value after it. -/
theorem declared (here : raw ∈ root.nodes) (source : String) {name : RawNode}
    {value : Option Expression} (named : raw.field? "name" = some name)
    (init : Option.Rel (Gives below Lowering.initializer) (raw.field? "value") value) :
    Along [raw] [[(Lowering.identifier source name).node], slotOf Expression.node value].flatten := by
  have order := (o.sequenced raw here).declared.pick [4, 6] (by decide)
  refine o.inside here (fun p hp => ?_) (.flatten order
    (.cons (o.nameField here source named) (.cons (o.initializer.field here init) .nil)))
  change p ∈ (raw.field? "name").toList ++ ((raw.field? "value").toList ++ []) at hp
  rw [List.append_nil, List.mem_append] at hp
  exact hp.elim RawNode.mem_nodes_of_mem_field RawNode.mem_nodes_of_mem_field

/-- The variables of one declaration all start where the declaration starts. -/
theorem variableDeclarations (here : raw ∈ root.nodes)
    (tag : raw.tag = "field_declaration" ∨ raw.tag = "constant_declaration" ∨
      raw.tag = "local_variable_declaration") {vs : List VariableDeclaration}
    (made : Gives below (variableDeclarations source) raw vs) :
    Along [raw] (vs.map Node.variableDeclaration) := by
  obtain ⟨modifiers, type, listed, given, declarators⟩ := run_variableDeclarations_eq_ok.mp made
  have order : RawNode.InTurn [(raw.childOfTag? "modifiers").toList, (raw.field? "type").toList,
      raw.fields "declarator"] := by
    rcases tag with tag | tag | tag
    all_goals exact (o.sequenced raw here).row tag List.mem_cons_self
  -- each variable starts where the whole declaration does
  have starting : ∀ v ∈ vs, Along [raw] [.variableDeclaration v] ∧
      v.span.startByte = raw.span.startByte := by
    intro v hv
    obtain ⟨p, hp, made⟩ := exists_of_forall₂ declarators hv
    obtain ⟨base, name, value, rfl, named, init, rfl⟩ := run_declarator_eq_ok.mp made
    have inner := RawNode.mem_nodes_trans here (raw.fields_subset_nodes "declarator" hp)
    have type := o.bracketedField here (brackets (p.field? "dimensions")) given
    have own := (o.declared inner source named init).of_mem hp
    refine ⟨o.whole here rfl (.flatten order
      (.cons (o.modifiers.child here listed) (.cons type (.cons own .nil)))) ?_, rfl⟩
    simp [Node.children, Node.slots, Statement.slots, slotOf]
  exact .level (List.forall_mem_map.mpr fun v hv => (starting v hv).1)
    (List.forall_mem_map.mpr fun v hv => (starting v hv).2)

/-- A variable that is declared alone starts with its modifiers or its type. -/
theorem declaredVariable (here : raw ∈ root.nodes) {value : Option RawNode}
    {v : VariableDeclaration} (held : value = none ∨ value = raw.field? "value")
    (made : (declaredVariable source raw value).run below = .ok v) :
    Along ((raw.childOfTag? "modifiers").toList ++ (raw.field? "type").toList)
      [.variableDeclaration v] := by
  obtain ⟨modifiers, base, name, init, listed, given, named, valued, rfl⟩ :=
    run_declaredVariable_eq_ok.mp made
  obtain ⟨t, found, -⟩ := exists_of_rel_some given
  have order := (o.sequenced raw here).declared.pick [0, 1, 4, 6] (by decide)
  -- parameters are read without a value, resources with the one that they hold
  have value' : Along (raw.field? "value").toList (slotOf Expression.node init) := by
    rcases held with rfl | rfl
    · cases valued
      exact .nil
    · exact o.expression.field here valued
  refine .node ?_ (.flatten order (.cons (o.modifiers.child here listed)
    (.cons (o.bracketedField here _ given) (.cons (o.nameField here source named)
      (.cons value' .nil)))))
  -- the variable starts with its modifiers, and without any with its type
  cases list : raw.childOfTag? "modifiers" with
  | some list' =>
    refine ⟨list', by simp, o.startsIn (RawNode.inner_of_childOfTag? here list) ?_⟩
    simp [Node.span, declaredSpan, list, Span.through]
  | none =>
    refine ⟨t, by simp [found], o.startsIn (RawNode.inner_of_field? here found) ?_⟩
    simp [Node.span, declaredSpan, list, found, Span.through]

/-- A variadic parameter. The dots add a layer to the type as brackets do. -/
theorem spreadParameter (here : raw ∈ root.nodes) (tag : raw.tag = "spread_parameter")
    {v : VariableDeclaration} (made : (spreadParameter source raw).run below = .ok v) :
    Along [raw] [.variableDeclaration v] := by
  obtain ⟨modifiers, element, declarator, name, value, listed, given, found, named, init, rfl⟩ :=
    run_spreadParameter_eq_ok.mp made
  have order := (o.sequenced raw here).row tag List.mem_cons_self
  have inner := RawNode.inner_of_childOfTag? here found
  have type := o.type.part
    (fun _ found => RawNode.inner_of_namedChildren here (List.mem_of_find?_eq_some found)) given
  have type := type.foldl_arrayOf
    ((raw.findToken? "...").toList ++ brackets (declarator.field? "dimensions"))
  have own := (o.declared inner source named init).of_mem (RawNode.mem_toList found)
  refine o.whole here rfl (.flatten order
    (.cons (o.modifiers.child here listed) (.cons type (.cons own .nil)))) ?_
  simp [Node.children, Node.slots, Statement.slots]

/-- A variable that is declared alone lies inside its node. -/
theorem soleVariable (here : raw ∈ root.nodes) {value : Option RawNode} {v : VariableDeclaration}
    (held : value = none ∨ value = raw.field? "value")
    (made : (Lowering.declaredVariable source raw value).run below = .ok v) :
    Along [raw] [.variableDeclaration v] := by
  refine o.inside here (fun p hp => ?_) (o.declaredVariable here held made)
  rcases List.mem_append.mp hp with hp | hp
  · exact RawNode.mem_nodes_of_mem_childOfTag hp
  · exact RawNode.mem_nodes_of_mem_field hp

/-- A parameter of either sort. -/
theorem parameter :
    Keeps root (Gives below (parameter source)) fun v => [.variableDeclaration v] := by
  intro raw here v made
  rcases parameter_form made with ⟨-, made⟩ | ⟨tag, made⟩
  · exact o.soleVariable here (.inl rfl) made
  · exact o.spreadParameter here tag made

theorem resource : Keeps root (Gives below (resource source)) fun v => [.variableDeclaration v] :=
  fun _ here _ made => o.soleVariable here (.inr rfl) (resource_form made)

end Orderly

end Lowering

end JavaSyntax
