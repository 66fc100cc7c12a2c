import JavaSyntax.Proofs.Lowering.Along.Declaration
import JavaSyntax.Proofs.Lowering.Forms.Statement

/-!
# Statements along the source

* `Orderly.constructorCall`: the call of a constructor, which may be a bare call;
* `Orderly.caseGroups`: the groups of a switch, with the labels that are pending;
* `Orderly.statementForm`: a statement of each form stands along its node.

The groups of a switch are where the order is proved with a state. What is pending consists of labels
with a start, and both come from raw groups that have been passed already; `caseGroups` carries a list
`ps` of these, and each step either adds the next group to it or closes a case and starts with an empty
list again. Within a group labels and statements are mixed in the source as far as the raw tree tells,
and only the row for groups says that labels come first.
-/

namespace JavaSyntax

namespace Lowering

namespace Orderly

variable {root raw : RawNode} {source : String} {below : Answers} (o : Orderly root below)

include o

/-! ## Calls of constructors -/

/-- A constructor is called by its keyword, which follows the type arguments. If nothing stands before
them, the call is a bare one. -/
theorem constructorCall (here : raw ∈ root.nodes) (tag : raw.tag = "explicit_constructor_invocation")
    {s : ExpressionStatement} (made : Gives below (constructorCall source) raw s) :
    Along [raw] [.expressionStatement s] := by
  obtain ⟨callee, types, values, form, typed, given, rfl⟩ := constructorCall_form made
  have order := (o.sequenced raw here).row tag List.mem_cons_self
  have start : (callSpan raw).startByte = raw.span.startByte := by
    unfold callSpan
    split <;> rfl
  have types' := o.itemsField here o.type typed
  have values' := o.itemsField here o.expression given
  suffices call : Along [raw] [.expression (.methodInvocation (callSpan raw) callee types values)] from
    o.whole here rfl call rfl
  cases form with
  | @qualified object keyword given named =>
    have held := RawNode.inner_of_field? here named
    have selected := o.select source held (o.expression.field here given) fun p hp =>
      order.le_of_places (i := 0) (j := 2) (by decide) hp (RawNode.mem_toList named)
    exact o.whole here start (.flatten (order.pick [0, 1, 3] (by decide))
      (.cons selected (.cons types' (.cons values' .nil)))) rfl
  | @plain keyword absent named =>
    have name := o.nameField here source named
    -- without type arguments the keyword is the first slot, as it should be
    cases types with
    | nil =>
      exact o.whole here start (.flatten (order.pick [2, 3] (by decide))
        (.cons name (.cons values' .nil))) rfl
    | cons first rest =>
      -- the keyword comes behind the type arguments but fills the first slot, so only what is inside is
      -- in order
      refine .bareCall rfl ⟨raw, List.mem_cons_self, o.startsIn here start⟩ fun c hc => ?_
      change c ∈ [(Lowering.identifier source keyword).node] ++
        ((first :: rest).map Expression.node ++ (values.map Expression.node ++ [])) at hc
      rw [List.append_nil, List.mem_append, List.mem_append] at hc
      rcases hc with hc | hc | hc
      · exact name.settled c hc
      · exact types'.settled c hc
      · exact values'.settled c hc

/-! ## Places among statements -/

/-- A construct in a place for any number of statements, by its form. -/
theorem statementsForm :
    Keeps root (StatementsForm source below) fun ss => ss.map Statement.node := by
  intro raw here ss form
  cases form with
  | declaration tag given =>
    change Along [raw] (List.map Statement.node (List.map Statement.variableDeclaration _))
    rw [List.map_map]
    exact o.variableDeclarations here (.inr (.inr tag)) given
  | constructorCall tag given => exact o.constructorCall here tag given
  | type given => exact o.typeDeclaration raw here _ given
  | statement given => exact o.statement raw here _ given

/-- A child of a block; tokens make nothing. -/
theorem blockEntryForm :
    Keeps root (BlockEntryForm source below) fun ss => ss.map Statement.node := by
  intro raw here ss form
  cases form with
  | named isNamed form => exact o.statementsForm raw here ss form
  | empty tag => exact o.leaf here rfl rfl
  | token => exact .nil

/-- The statements of a block stand in the order of its children. -/
theorem statementList : Keeps root (Gives below (statementList source))
    fun ss => ss.map Statement.node := by
  intro raw here ss made
  obtain ⟨groups, given, rfl⟩ := statementList_form made
  have entries : Keeps root (Gives below (blockEntry source)) fun ss => ss.map Statement.node :=
    fun p hp ss made => o.blockEntryForm p hp ss (blockEntry_form made)
  exact o.inside here raw.children_subset_nodes (o.gatherLists here entries List.filter_sublist given)

/-! ## Parts of statements -/

/-- A condition stands along the parentheses around it. -/
theorem condition (here : raw ∈ root.nodes) {test : Option Expression}
    (given : Option.Rel (Gives below Lowering.expression)
      ((raw.field? "condition").bind insideParentheses) test) :
    Along (raw.field? "condition").toList (slotOf Expression.node test) :=
  o.inner o.expression
    (fun _ found => RawNode.inner_of_field? here found)
    (fun _ _ => mem_nodes_of_insideParentheses) given

/-- An expression in the head of a loop. -/
theorem bareExpression :
    Keeps root (Gives below bareExpression) fun s => [.expressionStatement s] := by
  intro raw here s made
  obtain ⟨e, given, rfl⟩ := bareExpression_form made
  exact o.whole here rfl (o.expression raw here e given) rfl

/-- An initializer of a loop, which can make several variables. -/
theorem forInitializer :
    Keeps root (Gives below (forInitializer source)) fun ss => ss.map Statement.node := by
  intro raw here ss made
  cases forInitializer_form made with
  | declaration tag given => exact o.statementsForm raw here _ (.declaration tag given)
  | expression given => exact o.bareExpression raw here _ given

/-- The type that is caught; a union covers the list of its alternatives. -/
theorem caughtType : Keeps root (CaughtTypeForm below) fun type => [type.node] := by
  intro list here type form
  cases form with
  | union several given =>
    exact o.whole here rfl (o.each here o.type list.namedChildren_sublist_parts given)
      (List.append_nil _).symm
  | @single part type only given =>
    have inner : part ∈ list.nodes :=
      list.namedChildren_subset_nodes (only ▸ List.mem_cons_self)
    exact o.inside here (List.forall_mem_singleton.mpr inner)
      (o.type part (RawNode.mem_nodes_trans here inner) type given)

/-- The parameter of a clause has modifiers, types and a name, in this order. -/
theorem catchParameter :
    Keeps root (Gives below (catchParameter source)) fun v => [.variableDeclaration v] := by
  intro raw here v made
  obtain ⟨modifiers, list, caught, name, listed, found, form, named, rfl⟩ := catchParameter_form made
  have order := (o.sequenced raw here).declared.pick [0, 2, 4] (by decide)
  have inner := RawNode.inner_of_childOfTag? here found
  have type := (o.caughtType list inner caught form).of_mem (RawNode.mem_toList found)
  refine o.whole here rfl (.flatten order (.cons (o.modifiers.child here listed)
    (.cons type (.cons (o.nameField here source named) .nil)))) ?_
  simp [Node.children, Node.slots, Statement.slots, slotOf]

/-- A clause: first the parameter, then the block. -/
theorem catchClause : Keeps root (Gives below (catchClause source)) fun c => [.catchClause c] := by
  intro raw here c made
  obtain ⟨parameter, body, given, bodied, rfl⟩ := catchClause_form made
  have order := (o.sequenced raw here).declared.pick [3, 7] (by decide)
  exact o.whole here rfl (.flatten order (.cons (o.catchParameter.child here given)
    (.cons (o.block.field here bodied) .nil))) rfl

/-! ## Switches -/

/-- The values of a label, in their order. -/
theorem caseLabel : Keeps root (Gives below caseLabel) fun l => [.caseLabel l] := by
  intro raw here l made
  obtain ⟨values, given, rfl⟩ := caseLabel_form made
  exact o.whole here rfl (o.each here o.expression raw.namedChildren_sublist_parts given)
    (List.append_nil _).symm

/-- A child of a group makes a label or statements. -/
theorem caseEntry (here : raw ∈ root.nodes) {entry : List CaseLabel × List Statement}
    (form : CaseEntryForm source below raw entry) :
    Along ([raw].filter RawNode.isLabel) (entry.1.map Node.caseLabel) ∧
      Along ([raw].filter RawNode.isBodyEntry) (entry.2.map Statement.node) := by
  cases form with
  | label tag given =>
    have isLabel : raw.isLabel := beq_of_eq tag
    refine ⟨?_, .nil⟩
    rw [List.filter_cons_of_pos isLabel]
    exact o.caseLabel raw here _ given
  | body tag form =>
    refine ⟨.nil, ?_⟩
    have isEntry (entry : raw.isNamed ∨ raw.tag = ";") : raw.isBodyEntry := by
      simpa [RawNode.isBodyEntry, RawNode.isLabel, tag] using entry
    cases form with
    | named isNamed form =>
      rw [List.filter_cons_of_pos (isEntry (.inl isNamed))]
      exact o.statementsForm raw here _ form
    | empty tag =>
      rw [List.filter_cons_of_pos (isEntry (.inr tag))]
      exact o.leaf here rfl rfl
    | token => exact .nil

/-- A group with its labels and its statements. Each child makes one sort or the other, so both lists are
what two filters leave of the children. -/
theorem caseGroupBody :
    Keeps root (fun p group => (caseGroupBody source p).run below = .ok group)
      fun group => group.1.map Node.caseLabel ++ group.2.map Statement.node := by
  intro raw here group made
  obtain ⟨entries, given, rfl⟩ := caseGroupBody_form made
  have order := (o.sequenced raw here).apart.sublist (List.filter_sublist : raw.children.Sublist _)
  have inner : ∀ p ∈ raw.children, p ∈ root.nodes := fun p hp =>
    RawNode.mem_nodes_trans here (raw.children_subset_nodes hp)
  have each := ((List.forall₂_and_left _ _).mpr ⟨inner, given⟩).imp fun p entry made =>
    o.caseEntry made.1 (caseEntry_form made.2)
  have labels := Along.filter order (each.imp fun _ _ made => made.1)
  have bodies := Along.filter order (each.imp fun _ _ made => made.2)
  -- the row for groups has all labels before all other children
  rw [← List.map_flatMap] at labels bodies
  refine o.inside here (fun p hp => raw.children_subset_nodes ?_)
    (labels.append bodies fun p hp q hq =>
      (o.sequenced raw here).labeled.le_of_places (i := 0) (j := 1) (by decide) hp hq)
  rcases List.mem_append.mp hp with hp | hp
  · exact (List.mem_filter.mp hp).1
  · exact (List.mem_filter.mp hp).1

omit o in
/-- A group joins the labels that are pending before it, and starts where they do. -/
theorem joined {ps : List RawNode} {group : RawNode} {labels : List CaseLabel} {ns : List Node}
    {pending : Option (Span × List CaseLabel)}
    (order : ∀ p ∈ ps, p.label.stopByte ≤ group.label.startByte)
    (held : ∀ before, pending = some before → Along ps (before.2.map Node.caseLabel) ∧
      ∃ p ∈ ps, before.1.startByte = p.span.startByte)
    (given : Along [group] (labels.map Node.caseLabel ++ ns)) :
    Along (ps ++ [group]) ((Lowering.joined pending group labels).2.map Node.caseLabel ++ ns) ∧
      ∃ p ∈ ps ++ [group], (Lowering.joined pending group labels).1.startByte = p.span.startByte := by
  cases pending with
  | none =>
    exact ⟨given.mono (List.subset_append_right ps [group]), group, by simp, rfl⟩
  | some before =>
    obtain ⟨earlier, p, hp, start⟩ := held before rfl
    refine ⟨?_, p, List.mem_append_left _ hp, start⟩
    have both := earlier.append given fun p hp q hq => List.mem_singleton.mp hq ▸ order p hp
    rw [← List.append_assoc, ← List.map_append] at both
    exact both

/-- A group of a switch, which starts where some of the raw nodes do that it is made from. -/
theorem group {ps : List RawNode} {span : Span} {labels : List CaseLabel} {body : List Statement}
    (inner : ∀ p ∈ ps, p ∈ root.nodes) (start : ∃ p ∈ ps, span.startByte = p.span.startByte)
    (held : Along ps (labels.map Node.caseLabel ++ body.map Statement.node)) :
    Along ps [.caseGroup ⟨span, labels, body⟩] := by
  obtain ⟨p, hp, start⟩ := start
  have held : Along ps (Node.caseGroup ⟨span, labels, body⟩).children := by
    simpa [Node.children, Node.slots] using held
  exact .node ⟨p, hp, o.startsIn (inner p hp) start⟩ held

/-- The groups of a switch are made in the order of the raw ones. The labels that are pending come
from the raw nodes `ps`. -/
theorem caseGroups {ps groups : List RawNode} {pending : Option (Span × List CaseLabel)}
    {cases : List CaseGroup} (form : CaseGroupsForm below pending groups cases)
    (inner : ∀ p ∈ ps ++ groups, p ∈ root.nodes)
    (order : (ps ++ groups).Pairwise fun p q => p.label.stopByte ≤ q.label.startByte)
    (held : ∀ before, pending = some before → Along ps (before.2.map Node.caseLabel) ∧
      ∃ p ∈ ps, before.1.startByte = p.span.startByte) :
    Along (ps ++ groups) (cases.map Node.caseGroup) := by
  induction form generalizing ps with
  | done => exact .nil
  -- labels that are pending at the end make a case that starts where they do
  | @last span labels labeled =>
    obtain ⟨earlier, start⟩ := held _ rfl
    rw [List.append_nil] at inner ⊢
    exact o.group inner start (by simpa using earlier)
  -- the raw nodes that labels are pending from now include the group
  | @pending earlier group labels rest later given form ih =>
    have before := (List.pairwise_append.mp order).2.2
    obtain ⟨joined, start⟩ := Orderly.joined (fun p hp => before p hp group List.mem_cons_self) held
      (o.caseGroup group (inner group (by simp)) _ given)
    rw [List.append_cons] at inner order ⊢
    rw [List.map_nil, List.append_nil] at joined
    refine ih inner order ?_
    rintro _ ⟨⟩
    exact ⟨joined, start⟩
  -- the case is made from all these raw nodes, and nothing is pending behind it
  | @closed earlier group labels body rest later given filled labeled form ih =>
    have before := (List.pairwise_append.mp order).2.2
    obtain ⟨joined, start⟩ := Orderly.joined (fun p hp => before p hp group List.mem_cons_self) held
      (o.caseGroup group (inner group (by simp)) _ given)
    rw [List.append_cons] at inner order ⊢
    rw [List.pairwise_append] at order
    have made := o.group (fun p hp => inner p (List.mem_append_left rest hp)) start joined
    have others := @ih [] (fun p hp => inner p (List.mem_append_right _ hp)) order.2.1 (fun _ => nofun)
    exact made.append others order.2.2

/-- The cases of a switch stand along its body; nothing is pending before the first group. -/
theorem switchGroups (here : raw ∈ root.nodes) {cases : List CaseGroup}
    (form : CaseGroupsForm below none (Lowering.items (raw.field? "body")) cases) :
    Along (raw.field? "body").toList (cases.map Node.caseGroup) := by
  cases found : raw.field? "body" with
  | none =>
    rw [found] at form
    cases form
    exact .nil
  | some body =>
    rw [found] at form
    have held := RawNode.inner_of_field? here found
    have all : Along ([] ++ body.namedChildren) (cases.map Node.caseGroup) := by
      refine o.caseGroups form ?_ ?_ (fun _ => nofun)
      · exact fun p hp => RawNode.inner_of_namedChildren held hp
      · exact (o.sequenced body held).pairwise_of_sublist body.namedChildren_sublist_parts
    exact o.inside held body.namedChildren_subset_nodes all

/-! ## All forms -/

/-- **A statement of each form stands along its node.** As for expressions, the row is found by the
tag; forms without a row have one part, or two in a fixed place. -/
theorem statementForm (here : raw ∈ root.nodes) {s : Statement}
    (form : StatementForm source below raw s) : Along [raw] [s.node] := by
  have row {tag : String} (h : raw.tag = tag) {row : List (List RawNode)}
      (listed : row ∈ raw.rowsOf tag) := (o.sequenced raw here).row h listed
  have named {p : RawNode} (hp : p ∈ raw.namedChildren) : p ∈ root.nodes :=
    RawNode.inner_of_namedChildren here hp
  have head {value : Option Expression}
      (given : Option.Rel (Gives below Lowering.expression) raw.namedChildren.head? value) :=
    o.expression.part (fun _ found => named (List.mem_of_head? found)) given
  have label : Along (raw.childOfTag? "identifier").toList (slotOf Identifier.node
      ((raw.childOfTag? "identifier").map (Lowering.identifier source))) := by
    cases found : raw.childOfTag? "identifier" with
    | none => exact .nil
    | some name =>
      exact o.identifier (RawNode.inner_of_childOfTag? here found) source
  have body {name : String} {s : Option Statement}
      (given : Option.Rel (Gives below Lowering.statement) (raw.field? name) s) :=
    o.statement.field here given
  cases form with
  | empty => exact o.leaf here rfl rfl
  | block given =>
    exact o.whole here rfl (o.statementList raw here _ given) (List.append_nil _).symm
  | expression given => exact o.whole here rfl (head given) rfl
  | @labeled label s found given =>
    have labeled := o.statement.part (fun _ found => named (List.mem_of_getElem? found)) given
    exact o.whole here rfl (.flatten (o.sequenced raw here).namedPair
      (.cons (o.name source found (named (List.mem_of_head? found))) (.cons labeled .nil))) rfl
  | ifElse tag tested met unmet =>
    exact o.whole here rfl (.flatten (row tag List.mem_cons_self)
      (.cons (o.condition here tested) (.cons (body met) (.cons (body unmet) .nil)))) rfl
  | whileLoop tag tested given =>
    exact o.whole here rfl (.flatten (row tag List.mem_cons_self)
      (.cons (o.condition here tested) (.cons (body given) .nil))) rfl
  | doLoop tag given tested =>
    exact o.whole here rfl (.flatten (row tag List.mem_cons_self)
      (.cons (body given) (.cons (o.condition here tested) .nil))) rfl
  | forLoop tag started tested updated given =>
    have initializers := o.gatherLists here o.forInitializer List.filter_sublist started
    have updates := o.each here o.bareExpression List.filter_sublist updated
    exact o.whole here rfl (.flatten (row tag List.mem_cons_self) (.cons initializers
      (.cons (o.expression.field here tested) (.cons updates (.cons (body given) .nil))))) rfl
  | forEach tag declared ranged given =>
    -- the variable of the loop is declared in the node of the loop, so two groups make one slot
    have order := ((o.sequenced raw here).declared.pick [0, 1, 6, 7] (by decide)).merge
    exact o.whole here rfl (.flatten order (.cons (o.declaredVariable here (.inl rfl) declared)
      (.cons (o.expression.field here ranged) (.cons (body given) .nil)))) rfl
  | breakOut => exact o.whole here rfl label (List.append_nil _).symm
  | continueLoop => exact o.whole here rfl label (List.append_nil _).symm
  | returnValue given => exact o.whole here rfl (head given) (List.append_nil _).symm
  | throwValue given => exact o.whole here rfl (head given) rfl
  | assertion tested given =>
    have detail := o.expression.part (fun _ found => named (List.mem_of_getElem? found)) given
    exact o.whole here rfl (.flatten (o.sequenced raw here).namedPair
      (.cons (head tested) (.cons detail .nil))) rfl
  | synchronizedOn tag given bodied =>
    have lock := o.inner o.expression (fun _ found =>
      RawNode.inner_of_childOfTag? here found)
      (fun _ _ => mem_nodes_of_insideParentheses) given
    exact o.whole here rfl (.flatten (row tag List.mem_cons_self)
      (.cons lock (.cons (o.block.field here bodied) .nil))) rfl
  | tryBlock tag opened bodied caught closed =>
    have order : RawNode.InTurn [(raw.field? "resources").toList, (raw.field? "body").toList,
        raw.childrenOfTag "catch_clause", (raw.childOfTag? "finally_clause").toList] := by
      -- with and without resources the row is the same
      rcases tag with tag | tag
      all_goals exact row tag List.mem_cons_self
    have clauses := o.each here o.catchClause
      (List.filter_sublist.trans raw.namedChildren_sublist_parts) caught
    have last := o.inner o.block (fun _ found =>
      RawNode.inner_of_childOfTag? here found)
      (fun _ _ => RawNode.mem_nodes_of_childOfTag?) closed
    exact o.whole here rfl (.flatten order (.cons (o.membersField here o.resource opened)
      (.cons (o.block.field here bodied) (.cons clauses (.cons last .nil))))) rfl
  | switch tag given grouped =>
    exact o.whole here rfl (.flatten (row tag List.mem_cons_self)
      (.cons (o.condition here given) (.cons (o.switchGroups here grouped) .nil))) rfl
  | sole form => exact o.statementsForm raw here _ form

end Orderly

end Lowering

end JavaSyntax
