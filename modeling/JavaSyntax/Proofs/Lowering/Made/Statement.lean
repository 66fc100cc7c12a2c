import JavaSyntax.Proofs.Lowering.Made.Declaration

/-!
# What statements are made from

* `made_constructorCall`: the call of a constructor stops with its arguments;
* `made_caseGroupsForm`: a group of a switch is made from the raw groups that are merged into it;
* `made_statementForm`: a statement is made from nodes of its raw node.

Statements lie inside their raw nodes and take the whole of them, with two exceptions. The call of a
constructor stops before the semicolon, so it is made from the node up to the arguments; and the groups
of a switch are joined, so a group is made from the first to the last raw group of its run. For both it
has to be known which part comes last.
-/

namespace JavaSyntax

open Node

namespace Lowering

variable {root raw : RawNode} {source : String} {below : Answers} {h k : Nat}
  (g : Grounded root source h below raw)

include g

/-! ## Calls of constructors -/

/-- The part that the call of a constructor stops with: nothing of it stops later. -/
theorem exists_last_of_call (tag : raw.tag = "explicit_constructor_invocation") :
    ∃ last ∈ raw.nodes, callSpan raw = raw.span.through last.span ∧
      (∀ p, raw.field? "constructor" = some p → root.StopsBy p last) ∧
      (∀ p, raw.field? "type_arguments" = some p → root.StopsBy p last) ∧
      ∀ p, raw.field? "arguments" = some p → root.StopsBy p last := by
  -- without arguments the call reaches to the end of the node
  cases found : raw.field? "arguments" with
  | none =>
    have inner {name : String} {p : RawNode} (hp : raw.field? name = some p) :
        root.StopsBy p raw := .inl ⟨g.here, RawNode.mem_nodes_of_field? hp⟩
    refine ⟨raw, raw.mem_nodes_self, ?_, fun _ => inner, fun _ => inner, nofun⟩
    rw [callSpan, found]
    rfl
  | some list =>
    have inner := RawNode.mem_nodes_of_field? found
    refine ⟨list, inner, ?_, fun p hp => ?_, fun p hp => ?_, ?_⟩
    · rw [callSpan, found]
    · exact .inr (.of_tag tag g.here (i := 2) (j := 3) (RawNode.mem_toList hp)
        (RawNode.mem_toList found) (by decide))
    · exact .inr (.of_tag tag g.here (i := 1) (j := 3) (RawNode.mem_toList hp)
        (RawNode.mem_toList found) (by decide))
    · rintro _ ⟨⟩
      exact RawNode.stopsBy_self (g.of_mem inner).here

/-- The statement takes its node, and the call in it stops with the arguments. -/
theorem made_constructorCall (tag : raw.tag = "explicit_constructor_invocation")
    {s : ExpressionStatement} (made : Gives below (constructorCall source) raw s) :
    Made root source true (h + 3) raw raw (.expressionStatement s) := by
  obtain ⟨callee, types, values, called, typed, given, rfl⟩ := constructorCall_form made
  obtain ⟨last, inner, span, keyed, typing, listing⟩ := exists_last_of_call g tag
  -- what starts inside the node and stops by `last` is part of the call
  have within {exact : Bool} {l : Nat} {first stop : RawNode} {n : Node}
      (made : Made root source exact l first stop n) (hf : first ∈ raw.nodes) (hl : l ≤ h + 1)
      (stops : root.StopsBy stop last) : Made root source false (h + 1) raw last n :=
    .wider (.inl ⟨g.here, hf⟩) stops (made.mono hl)
  have call : Made root source true (h + 2) raw last
      (Expression.methodInvocation (callSpan raw) callee types values).node := by
    refine .node (l := h + 1) (by omega) (.inl ⟨g.here, inner⟩) span rfl
      (fun t ht => absurd ht List.not_mem_nil) nofun
      (forall_children_methodInvocation.mpr ⟨?_, ?_, ?_⟩)
    · cases called with
      | plain absent named =>
        have key := RawNode.mem_nodes_of_field? named
        exact within (.identifier (g.of_mem key).here (Nat.succ_pos h)) key (Nat.le_refl _)
          (keyed _ named)
      | qualified given named =>
        obtain ⟨object, found, given⟩ := exists_of_rel_some given
        have outer := RawNode.mem_nodes_of_field? found
        have order : root.Before object _ := .of_tag tag g.here (i := 0) (j := 2)
          (RawNode.mem_toList found) (RawNode.mem_toList named) (by decide)
        exact within (.select (Nat.lt_succ_self h) order (g.expression outer given)) outer
          (Nat.le_refl _) (keyed _ named)
    · refine of_forall₂ typed fun p hp _ gives => ?_
      obtain ⟨list, found, hp⟩ := exists_of_mem_items hp
      have part := list.namedChildren_subset_nodes hp
      have held := RawNode.mem_nodes_trans (RawNode.mem_nodes_of_field? found) part
      exact within (g.type held gives) held (Nat.le_succ h) ((typing list found).inside part)
    · refine of_forall₂ given fun p hp _ gives => ?_
      obtain ⟨list, found, hp⟩ := exists_of_mem_items hp
      have part := list.namedChildren_subset_nodes hp
      have held := RawNode.mem_nodes_trans (RawNode.mem_nodes_of_field? found) part
      exact within (g.expression held gives) held (Nat.le_succ h)
        ((listing list found).inside part)
  exact g.whole rfl rfl rfl (forall_children_expressionStatement.mpr
    (call.inside g.here raw.mem_nodes_self inner)) (by omega)

/-! ## Places among statements -/

/-- What one raw statement makes: variables, the call of a constructor, a type or a statement. -/
theorem made_statementsForm (narrow : raw.Narrow k) {ss : List Statement}
    (form : StatementsForm source below raw ss) :
    ∀ s ∈ ss, Made root source false (h + k + 3) raw raw s.node := by
  cases form with
  | declaration tag given =>
    rw [List.forall_mem_map]
    intro v hv
    obtain ⟨p, hp, made⟩ := made_variableDeclarations g narrow (.inr (.inr tag)) given v hv
    exact (made.inside g.here raw.mem_nodes_self (raw.fields_subset_nodes _ hp)).mono (by omega)
  | constructorCall tag given =>
    rw [List.forall_mem_singleton]
    exact (g.inside raw.mem_nodes_self (made_constructorCall g tag given)).mono (by omega)
  | type given =>
    rw [List.forall_mem_singleton]
    exact (g.asked.typeDeclaration raw.mem_nodes_self given).mono (by omega)
  | statement given =>
    rw [List.forall_mem_singleton]
    exact (g.asked.statement raw.mem_nodes_self given).mono (by omega)

/-- What one child of a block makes. -/
theorem made_blockEntryForm (narrow : raw.Narrow k) {ss : List Statement}
    (form : BlockEntryForm source below raw ss) :
    ∀ s ∈ ss, Made root source false (h + k + 3) raw raw s.node := by
  cases form with
  | named isNamed form => exact made_statementsForm g narrow form
  | empty tag =>
    rw [List.forall_mem_singleton]
    exact g.inside raw.mem_nodes_self
      (g.whole (l := 0) rfl rfl rfl forall_children_empty (by omega))
  | token => exact fun s hs => absurd hs List.not_mem_nil

/-- The statements of a block are children of its node. -/
theorem made_statementList (narrow : raw.Narrow k) {ss : List Statement}
    (made : Gives below (statementList source) raw ss) :
    ∀ s ∈ ss, Made root source false (h + k + 3) raw raw s.node := by
  obtain ⟨groups, given, rfl⟩ := statementList_form made
  refine of_forall₂_flatten given fun p hp _ gives s hs => ?_
  have inner := raw.children_subset_nodes hp
  exact g.inside inner
    (made_blockEntryForm (g.of_mem inner) (narrow.of_mem inner) (blockEntry_form gives) s hs)

/-! ## Parts of statements -/

/-- A statement that is an expression and no more. -/
theorem made_bareExpression {s : ExpressionStatement} (made : Gives below bareExpression raw s) :
    Made root source true (h + 1) raw raw (.expressionStatement s) := by
  obtain ⟨e, given, rfl⟩ := bareExpression_form made
  exact g.whole rfl rfl rfl (forall_children_expressionStatement.mpr
    (g.inside raw.mem_nodes_self (g.expression raw.mem_nodes_self given))) (Nat.lt_succ_self h)

/-- Variables or expressions at the start of a loop. -/
theorem made_forInitializer (narrow : raw.Narrow k) {ss : List Statement}
    (made : Gives below (forInitializer source) raw ss) :
    ∀ s ∈ ss, Made root source false (h + k + 2) raw raw s.node := by
  cases forInitializer_form made with
  | declaration tag given =>
    rw [List.forall_mem_map]
    intro v hv
    obtain ⟨p, hp, made⟩ := made_variableDeclarations g narrow (.inr (.inr tag)) given v hv
    exact made.inside g.here raw.mem_nodes_self (raw.fields_subset_nodes _ hp)
  | expression given =>
    rw [List.forall_mem_singleton]
    exact (g.inside raw.mem_nodes_self (made_bareExpression g given)).mono (by omega)

/-- A union adds a layer to the types in it. -/
theorem made_caughtType {type : Expression} (form : CaughtTypeForm below raw type) :
    Made root source false (h + 1) raw raw type.node := by
  cases form with
  | union several given =>
    refine g.inside raw.mem_nodes_self (g.whole (l := h) rfl rfl rfl
      (forall_children_unionType.mpr ?_) (Nat.lt_succ_self h))
    exact of_forall₂ given fun p hp _ gives =>
      have inner := raw.namedChildren_subset_nodes hp
      g.inside inner (g.type inner gives)
  | single only given =>
    have inner := raw.namedChildren_subset_nodes (only ▸ List.mem_cons_self)
    exact (g.inside inner (g.type inner given)).mono (Nat.le_succ h)

/-- Modifiers, the type and the name, with no brackets. -/
theorem made_catchParameter {v : VariableDeclaration}
    (made : Gives below (catchParameter source) raw v) :
    Made root source true (h + 2) raw raw (.variableDeclaration v) := by
  obtain ⟨modifiers, list, caught, name, listed, found, form, named, rfl⟩ :=
    catchParameter_form made
  have inner := RawNode.mem_nodes_of_childOfTag? found
  refine g.whole (l := h + 1) rfl rfl rfl
    (forall_children_variableDeclaration.mpr ⟨?_, ?_, ?_, by simp⟩) (by omega)
  · exact made_modifiersOf g listed
  · exact g.inside inner (made_caughtType (g.of_mem inner) form)
  · exact g.nameField named (by omega)

/-- A clause adds a layer to its parameter and to its block. -/
theorem made_catchClause {c : CatchClause} (made : Gives below (catchClause source) raw c) :
    Made root source true (h + 3) raw raw (.catchClause c) := by
  obtain ⟨parameter, body, given, bodied, rfl⟩ := catchClause_form made
  obtain ⟨p, found, gives⟩ := exists_of_rel_some given
  have inner := RawNode.mem_nodes_of_childOfTag? found
  refine g.whole (l := h + 2) rfl rfl rfl (forall_children_catchClause.mpr ⟨?_, ?_⟩) (by omega)
  · exact g.inside inner (made_catchParameter (g.of_mem inner) gives)
  · exact (made_blockPart g (fun _ => RawNode.mem_nodes_of_field?) bodied _ rfl).mono (by omega)

/-! ## Switches -/

/-- A label takes its own node, a statement likewise. -/
theorem made_caseEntryForm (narrow : raw.Narrow k) {entry : List CaseLabel × List Statement}
    (form : CaseEntryForm source below raw entry) :
    (∀ l ∈ entry.1, Made root source false (h + k + 3) raw raw (.caseLabel l)) ∧
      ∀ s ∈ entry.2, Made root source false (h + k + 3) raw raw s.node := by
  cases form with
  | label tag made =>
    refine ⟨?_, fun s hs => absurd hs List.not_mem_nil⟩
    obtain ⟨values, given, rfl⟩ := caseLabel_form made
    rw [List.forall_mem_singleton]
    refine g.inside raw.mem_nodes_self (g.whole (l := h) rfl rfl rfl
      (forall_children_caseLabel.mpr (of_forall₂ given fun p hp _ gives => ?_)) (by omega))
    have inner := raw.namedChildren_subset_nodes hp
    exact g.inside inner (g.expression inner gives)
  | body tag form =>
    exact ⟨fun l hl => absurd hl List.not_mem_nil, made_blockEntryForm g narrow form⟩

/-- All that stands in one raw group is made from its children. -/
theorem made_caseGroupBody (narrow : raw.Narrow k) {group : List CaseLabel × List Statement}
    (made : (caseGroupBody source raw).run below = .ok group) :
    (∀ l ∈ group.1, Made root source false (h + k + 3) raw raw (.caseLabel l)) ∧
      ∀ s ∈ group.2, Made root source false (h + k + 3) raw raw s.node := by
  obtain ⟨entries, given, rfl⟩ := caseGroupBody_form made
  have each := of_forall₂ given fun p hp _ gives =>
    have inner := raw.children_subset_nodes hp
    have entry := made_caseEntryForm (g.of_mem inner) (narrow.of_mem inner) (caseEntry_form gives)
    And.intro (fun l hl => g.inside inner (entry.1 l hl)) fun s hs => g.inside inner (entry.2 s hs)
  refine ⟨fun l hl => ?_, fun s hs => ?_⟩
  · obtain ⟨entry, hentry, hl⟩ := List.mem_flatMap.mp hl
    exact (each entry hentry).1 l hl
  · obtain ⟨entry, hentry, hs⟩ := List.mem_flatMap.mp hs
    exact (each entry hentry).2 s hs

omit g in
variable (root raw source h) in
/-- Whether an extent and labels are made from a run of groups of `raw` that comes before all of the
others. -/
def MadeBefore (others : List RawNode) (run : Span × List CaseLabel) : Prop :=
  ∃ first ∈ raw.nodes, ∃ last ∈ raw.nodes, root.StartsBy first last ∧
    run.1 = first.span.through last.span ∧
    (∀ q ∈ others, root.Before first q ∧ root.Before last q) ∧
    ∀ l ∈ run.2, Made root source false h first last (.caseLabel l)

/-- Labels that are pending come before the group that they join. -/
theorem made_joined {pending : Option (Span × List CaseLabel)} {group : RawNode}
    {others : List RawNode} {labels : List CaseLabel} (inner : group ∈ raw.nodes)
    (order : ∀ q ∈ others, root.Before group q)
    (early : ∀ run, pending = some run → MadeBefore root raw source h (group :: others) run)
    (own : ∀ l ∈ labels, Made root source false h group group (.caseLabel l)) :
    ∃ first ∈ raw.nodes, root.StartsBy first group ∧
      (joined pending group labels).1 = first.span.through group.span ∧
      (∀ q ∈ others, root.Before first q) ∧
      ∀ l ∈ (joined pending group labels).2, Made root source false h first group (.caseLabel l) := by
  have here := (g.of_mem inner).here
  cases pending with
  | none =>
    exact ⟨group, inner, RawNode.startsBy_self here, rfl, order, own⟩
  | some run =>
    obtain ⟨first, hf, last, -, -, span, before, made⟩ := early run rfl
    rw [List.forall_mem_cons] at before
    obtain ⟨⟨starts, stops⟩, before⟩ := before
    refine ⟨first, hf, .inr starts, ?_, fun q hq => (before q hq).1, ?_⟩
    · show run.1.through group.span = _
      rw [span]
      rfl
    · show ∀ l ∈ run.2 ++ labels, _
      rw [List.forall_mem_append]
      refine ⟨fun l hl => ?_, fun l hl => ?_⟩
      · exact .wider (RawNode.startsBy_self (g.of_mem hf).here) (.inr stops) (made l hl)
      · exact .wider (.inr starts) (RawNode.stopsBy_self here) (own l hl)

/-- The members of a list stand in source order. -/
theorem pairwise_before_items {name : String} :
    (items (raw.field? name)).Pairwise root.Before := by
  cases found : raw.field? name with
  | none => exact .nil
  | some list =>
    exact RawNode.pairwise_before_of_sublist (g.of_mem (RawNode.mem_nodes_of_field? found)).here
      list.namedChildren_sublist_parts

/-- A group of a switch adds one layer to what the raw groups of its run are made of. -/
theorem made_caseGroupsForm {pending : Option (Span × List CaseLabel)} {groups : List RawNode}
    {cases : List CaseGroup} (form : CaseGroupsForm below pending groups cases)
    (inner : groups ⊆ raw.nodes) (order : groups.Pairwise root.Before)
    (early : ∀ run, pending = some run → MadeBefore root raw source h groups run) :
    ∀ c ∈ cases, Made root source false (h + 1) raw raw (.caseGroup c) := by
  -- the induction is on the groups; what is pending comes before all that are left
  induction form with
  -- nothing is left and nothing pending
  | done => exact fun c hc => absurd hc List.not_mem_nil
  -- labels without statements at the end make a last group
  | last labeled =>
    obtain ⟨first, hf, last, hl, starts, span, -, made⟩ := early _ rfl
    rw [List.forall_mem_singleton]
    refine Made.inside (.node (Nat.lt_succ_self h) starts span rfl
      (fun t ht => absurd ht List.not_mem_nil) nofun ?_) g.here hf hl
    exact forall_children_caseGroup.mpr ⟨made, fun s hs => absurd hs List.not_mem_nil⟩
  -- a raw group without statements joins what is pending
  | @pending earlier group labels rest later given form ih =>
    rw [List.cons_subset] at inner
    rw [List.pairwise_cons] at order
    obtain ⟨first, hf, starts, span, before, made⟩ :=
      made_joined g inner.1 order.1 early (g.asked.caseGroup inner.1 given).1
    refine ih inner.2 order.2 ?_
    rintro _ ⟨⟩
    exact ⟨first, hf, group, inner.1, starts, span,
      fun q hq => ⟨before q hq, order.1 q hq⟩, made⟩
  -- a raw group with statements closes the run
  | @closed earlier group labels body rest later given filled labeled form ih =>
    rw [List.cons_subset] at inner
    rw [List.pairwise_cons] at order
    have own := g.asked.caseGroup inner.1 given
    obtain ⟨first, hf, starts, span, -, made⟩ := made_joined g inner.1 order.1 early own.1
    rw [List.forall_mem_cons]
    refine ⟨?_, ih inner.2 order.2 nofun⟩
    refine Made.inside (.node (Nat.lt_succ_self h) starts span rfl
      (fun t ht => absurd ht List.not_mem_nil) nofun ?_) g.here hf inner.1
    exact forall_children_caseGroup.mpr ⟨made, fun s hs =>
      .wider starts (RawNode.stopsBy_self (g.of_mem inner.1).here) (own.2 s hs)⟩

/-! ## Statements -/

/-- What is inside the parentheses of a part. -/
theorem made_parenthesized {part : Option RawNode} {result : Option Expression}
    (found : ∀ p, part = some p → p ∈ raw.nodes)
    (given : Option.Rel (Gives below expression) (part.bind insideParentheses) result) :
    ∀ e, result = some e → Made root source false h raw raw e.node := by
  refine g.expressionPart (fun q hq => ?_) given
  obtain ⟨p, hp, hq⟩ := Option.bind_eq_some_iff.mp hq
  exact RawNode.mem_nodes_trans (found p hp) (mem_nodes_of_insideParentheses hq)

/-- A condition is the expression inside its parentheses. -/
theorem made_condition {result : Option Expression}
    (given : Option.Rel (Gives below expression) ((raw.field? "condition").bind insideParentheses)
      result) : ∀ e, result = some e → Made root source false h raw raw e.node :=
  made_parenthesized g (fun _ => RawNode.mem_nodes_of_field?) given

/-- All statements, with at most four layers besides those of brackets. -/
theorem made_statementForm (narrow : raw.Narrow k) {s : Statement}
    (form : StatementForm source below raw s) :
    Made root source false (h + (k + 4)) raw raw s.node := by
  have own {n : Node} (made : Made root source true (h + (k + 4)) raw raw n) :
      Made root source false (h + (k + 4)) raw raw n := g.inside raw.mem_nodes_self made
  cases form with
  | empty => exact own (g.whole (l := 0) rfl rfl rfl forall_children_empty (by omega))
  | block given =>
    exact own (g.whole (l := h + k + 3) rfl rfl rfl
      (forall_children_block.mpr (made_statementList g narrow given)) (by omega))
  | expression given =>
    exact own (g.whole (l := h) rfl rfl rfl
      (forall_children_expressionStatement.mpr (g.head given _ rfl)) (by omega))
  -- the label is a leaf, so the layers are those of the statement
  | labeled named given =>
    refine own (g.whole (l := h + 1) rfl rfl rfl (forall_children_labeled.mpr ⟨?_, ?_⟩) (by omega))
    · exact g.name (raw.namedChildren_subset_nodes (List.mem_of_head? named)) (by omega)
    · exact (g.statementPart (fun _ found =>
        raw.namedChildren_subset_nodes (List.mem_of_getElem? found)) given _ rfl).mono (by omega)
  | ifElse tag tested met unmet =>
    refine own (g.whole (l := h) rfl rfl rfl (forall_children_ifElse.mpr ⟨?_, ?_, ?_⟩) (by omega))
    · exact made_condition g tested _ rfl
    · exact g.statementField met _ rfl
    · exact g.statementField unmet
  | whileLoop tag tested given =>
    refine own (g.whole (l := h) rfl rfl rfl (forall_children_whileLoop.mpr ⟨?_, ?_⟩) (by omega))
    · exact made_condition g tested _ rfl
    · exact g.statementField given _ rfl
  | doLoop tag given tested =>
    refine own (g.whole (l := h) rfl rfl rfl (forall_children_doLoop.mpr ⟨?_, ?_⟩) (by omega))
    · exact g.statementField given _ rfl
    · exact made_condition g tested _ rfl
  -- variables in the head add more layers than the body
  | forLoop tag started tested updated given =>
    refine own (g.whole (l := h + k + 2) rfl rfl rfl
      (forall_children_forLoop.mpr ⟨?_, ?_, ?_, ?_⟩) (by omega))
    · exact of_forall₂_flatten started fun p hp _ gives s hs =>
        have inner := raw.fields_subset_nodes "init" hp
        g.inside inner (made_forInitializer (g.of_mem inner) (narrow.of_mem inner) gives s hs)
    · exact fun e he => (g.field tested e he).mono (by omega)
    · exact of_forall₂ updated fun p hp _ gives =>
        have inner := raw.fields_subset_nodes "update" hp
        (g.inside inner (made_bareExpression (g.of_mem inner) gives)).mono (by omega)
    · exact (g.statementField given _ rfl).mono (by omega)
  | forEach tag declared ranged given =>
    refine own (g.whole (l := h + k + 2) rfl rfl rfl
      (forall_children_forEach.mpr ⟨?_, ?_, ?_⟩) (by omega))
    · exact made_declaredVariable g narrow (.inr (.inr tag)) (by simp) declared
    · exact (g.field ranged _ rfl).mono (by omega)
    · exact (g.statementField given _ rfl).mono (by omega)
  | breakOut =>
    refine own (g.whole (l := 1) rfl rfl rfl (forall_children_breakOut.mpr fun i hi => ?_) (by omega))
    obtain ⟨name, found, rfl⟩ := Option.map_eq_some_iff.mp hi
    exact g.name (RawNode.mem_nodes_of_childOfTag? found) Nat.one_pos
  | continueLoop =>
    refine own (g.whole (l := 1) rfl rfl rfl (forall_children_continueLoop.mpr fun i hi => ?_)
      (by omega))
    obtain ⟨name, found, rfl⟩ := Option.map_eq_some_iff.mp hi
    exact g.name (RawNode.mem_nodes_of_childOfTag? found) Nat.one_pos
  | returnValue given =>
    exact own (g.whole (l := h) rfl rfl rfl (forall_children_returnValue.mpr (g.head given))
      (by omega))
  | throwValue given =>
    exact own (g.whole (l := h) rfl rfl rfl (forall_children_throwValue.mpr (g.head given _ rfl))
      (by omega))
  | assertion tested given =>
    refine own (g.whole (l := h) rfl rfl rfl (forall_children_assertion.mpr ⟨?_, ?_⟩) (by omega))
    · exact g.head tested _ rfl
    · exact g.expressionPart (fun _ found =>
        raw.namedChildren_subset_nodes (List.mem_of_getElem? found)) given
  | synchronizedOn tag given bodied =>
    refine own (g.whole (l := h + 1) rfl rfl rfl (forall_children_synchronizedOn.mpr ⟨?_, ?_⟩)
      (by omega))
    · exact (made_parenthesized g (fun _ => RawNode.mem_nodes_of_childOfTag?) given _ rfl).mono
        (by omega)
    · exact made_blockPart g (fun _ => RawNode.mem_nodes_of_field?) bodied _ rfl
  -- resources stand one level deeper than the parts of the node, and so does the last block
  | tryBlock tag opened bodied caught closed =>
    refine own (g.whole (l := h + k + 3) rfl rfl rfl
      (forall_children_tryBlock.mpr ⟨?_, ?_, ?_, ?_⟩) (by omega))
    · refine of_forall₂ opened fun p hp _ gives => ?_
      have inner := (encloses_of_mem_childrenOfTag hp).mem_nodes
      have made := made_declaredVariable (g.of_mem inner) (narrow.of_mem inner)
        (.inr (.inl (tag_of_mem_childrenOfTag hp))) (fun _ found => found) (resource_form gives)
      exact (g.inside inner made).mono (by omega)
    · exact (made_blockPart g (fun _ => RawNode.mem_nodes_of_field?) bodied _ rfl).mono (by omega)
    · exact of_forall₂ caught fun p hp _ gives =>
        have inner := raw.childrenOfTag_subset_nodes "catch_clause" hp
        (g.inside inner (made_catchClause (g.of_mem inner) gives)).mono (by omega)
    · refine fun b hb => (made_blockPart g (fun p found => ?_) closed b hb).mono (by omega)
      obtain ⟨clause, hc, hp⟩ := Option.bind_eq_some_iff.mp found
      exact RawNode.mem_nodes_trans (RawNode.mem_nodes_of_childOfTag? hc)
        (RawNode.mem_nodes_of_childOfTag? hp)
  | switch tag given grouped =>
    refine own (g.whole (l := h + 1) rfl rfl rfl (forall_children_switch.mpr ⟨?_, ?_⟩) (by omega))
    · exact (made_condition g given _ rfl).mono (by omega)
    · exact made_caseGroupsForm g grouped
        (fun _ => mem_nodes_of_mem_items (fun _ => RawNode.mem_nodes_of_field?))
        (pairwise_before_items g) nofun
  | sole form => exact (made_statementsForm g narrow form _ List.mem_cons_self).mono (by omega)

end Lowering

end JavaSyntax
