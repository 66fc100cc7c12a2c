import JavaSyntax.Proofs.Lowering.Made.Basic

/-!
# What types, variables and expressions are made from

* `made_typeForm`, `made_expressionForm`: a type or an expression is made from its raw node exactly;
* `made_variableDeclarations`, `made_declaredVariable`, `made_spreadParameter`: a variable.

A lemma gives for each form the number of layers that it adds to the `h` layers of what it asks for. Most
forms add one. Brackets add one for each pair, and `k` bounds how many pairs there are in one place
(`RawNode.Narrow`). A variable adds two, since its modifiers are a node between it and their annotations,
and a call one for each selection in what it calls. The bounds are not sharp where a sharper one would
have to tell forms apart.

Extents enter by the two raw nodes between which a node is made. A node that is put together names the
first and the last part that it reaches to, so for each such form it is shown that no other part of it
starts earlier or stops later.
-/

namespace JavaSyntax

open Node

namespace Lowering

variable {root raw : RawNode} {source : String} {below : Answers} {h k : Nat}
  (g : Grounded root source h below raw)

include g

/-! ## Brackets -/

omit g in
/-- No place has more pairs of brackets than the bound on the tree says. -/
theorem length_brackets_le (narrow : raw.Narrow k) {dimensions : Option RawNode}
    (found : ∀ d, dimensions = some d → d ∈ raw.nodes) : (brackets dimensions).length ≤ k := by
  cases dimensions with
  | none => exact Nat.zero_le k
  | some d => exact (narrow d (found d rfl)).1

/-- A type with some of the brackets that follow it in a node. It stops where the type stops or at
the last of them. -/
theorem made_bracketed (narrow : raw.Narrow k) {t : RawNode} {base : Expression}
    {dimensions : Option RawNode} {closings : List RawNode}
    (some_of : closings.Sublist (brackets dimensions))
    (found : ∀ d, dimensions = some d → d ∈ raw.nodes)
    (order : ∀ d, dimensions = some d → root.Before t d) (inner : t ∈ raw.nodes)
    (given : Gives below typeExpression t base) :
    ∃ stop ∈ raw.nodes, (stop = t ∨ ∃ d, dimensions = some d ∧ stop ∈ d.nodes) ∧
      Made root source true (h + k) t stop (closings.foldl arrayOf base).node := by
  obtain ⟨stop, hs, made⟩ := (g.type inner given).foldl_arrayOf
    ((pairwise_before_cons_brackets order).sublist (some_of.cons_cons t))
  have few : closings.length ≤ k :=
    Nat.le_trans some_of.length_le (length_brackets_le narrow found)
  have made := made.mono (Nat.add_le_add_left few h)
  rcases List.mem_cons.mp hs with rfl | hs
  · exact ⟨stop, inner, .inl rfl, made⟩
  · obtain ⟨d, hd, held⟩ := exists_of_mem_brackets (some_of.subset hs)
    exact ⟨stop, RawNode.mem_nodes_trans (found d hd) held, .inr ⟨d, hd, held⟩, made⟩

/-! ## Types -/

/-- All types. A dotted name and an array type start with another part of the node (`lead?`), so they
are made from there on. -/
theorem made_typeForm (narrow : raw.Narrow k) {e : Expression}
    (form : TypeForm source below raw e) : Made root source true (h + k + 1) raw raw e.node := by
  cases form with
  | primitive =>
    exact g.operation (l := 0) rfl rfl rfl raw.mem_nodes_self nofun forall_children_primitiveType
      (by omega)
  | name => exact .identifier g.here (by omega)
  -- the names before the last one were lowered as a type of their own, which the last one is selected
  -- from
  | @scopedType qualifier second scope rest tag named given =>
    have first := raw.namedChildren_subset_nodes (named ▸ List.mem_cons_self)
    have last : rest.getLastD second ∈ second :: rest := List.getLastD_mem_cons
    have lead : raw.lead? = some qualifier := by
      rw [RawNode.lead?, tag]
      exact congrArg List.head? named
    have order : raw.Orders qualifier (rest.getLastD second) := by
      refine .inl (.trans ?_ raw.namedChildren_sublist_parts)
      rw [named]
      exact .cons_cons _ (List.singleton_sublist.mpr last)
    exact .led g.here lead (raw.parts_subset_nodes order.mem_parts.2)
      (.select (l := h) (by omega) (order.before g.here) (g.type first given))
  | generic tag given types =>
    refine g.whole (l := h) rfl rfl rfl (forall_children_parameterizedType.mpr ⟨?_, ?_⟩) (by omega)
    · exact g.typePart (fun _ found =>
        raw.namedChildren_subset_nodes (List.mem_of_find?_eq_some found)) given _ rfl
    · exact g.typeItems (fun _ => RawNode.mem_nodes_of_childOfTag?) types
  | array tag given =>
    obtain ⟨t, found, given⟩ := exists_of_rel_some given
    have lead : raw.lead? = some t := by
      rw [RawNode.lead?, tag]
      exact found
    have inner := RawNode.mem_nodes_of_field? found
    obtain ⟨stop, last, -, made⟩ := made_bracketed g narrow (.refl _)
      (fun _ => RawNode.mem_nodes_of_field?)
      (fun d hd => .of_tag tag g.here (i := 0) (j := 1) (RawNode.mem_toList found)
        (RawNode.mem_toList hd) (by decide)) inner given
    exact (Made.led g.here lead last made).mono (Nat.le_succ _)
  -- the annotations are not part of the tree, so the node reaches from an inner part only
  | annotated tag last given =>
    have inner := raw.namedChildren_subset_nodes (List.mem_of_getLast? last)
    exact .annotated g.here tag inner ((g.type inner given).mono (by omega))
  | wildcard tag given =>
    refine g.whole (l := h) rfl rfl rfl (forall_children_wildcard.mpr ?_) (by omega)
    exact g.typePart (fun _ found => raw.namedChildren_subset_nodes
      (List.mem_filter.mp (List.mem_of_getLast? found)).1) given
  | @scopedName _ name tag given named =>
    obtain ⟨s, found, given⟩ := exists_of_rel_some given
    have inner := RawNode.mem_nodes_of_field? found
    exact .selection (l := h) (by omega) g.here
      ((RawNode.qualifier?_scopedIdentifier tag).trans found)
      ((RawNode.selected?_scopedIdentifier tag).trans named) inner (g.expression inner given)

/-! ## Modifiers, annotations and values -/

/-- The keywords are tokens of the list, and the annotations are named children of it. -/
theorem made_modifiers {m : Modifiers} (form : ModifiersForm source below raw m) :
    Made root source true (h + 1) raw raw (.modifiers m) := by
  obtain ⟨annotations, given, rfl⟩ := form
  refine .node (l := h) (Nat.lt_succ_self h) (.inl ⟨g.here, raw.mem_nodes_self⟩) rfl rfl ?_ nofun ?_
  · intro t ht
    obtain ⟨q, hq, rfl⟩ := List.mem_map.mp ht
    exact ⟨q, RawNode.mem_nodes_trans g.here
      (raw.parts_subset_nodes (raw.tokens_subset_parts hq)), rfl⟩
  · refine forall_children_modifiers.mpr (of_forall₂ given fun p hp _ gives => ?_)
    have inner := raw.namedChildren_subset_nodes (List.mem_filter.mp hp).1
    exact g.inside inner (g.asked.annotationUse inner gives)

/-- The modifiers of a declaration. -/
theorem made_modifiersOf {result : Option Modifiers}
    (listed : Option.Rel (ModifiersForm source below) (raw.childOfTag? "modifiers") result) :
    ∀ m, result = some m → Made root source false (h + 1) raw raw (.modifiers m) :=
  of_rel listed fun _ found _ form =>
    have inner := RawNode.mem_nodes_of_childOfTag? found
    g.inside inner (made_modifiers (g.of_mem inner) form)

/-- A value of an annotation adds one layer for each of the pairs that stand in one another. -/
theorem made_annotationValue {e : Expression} (made : Gives below (annotationValue source) raw e) :
    Made root source false (h + raw.pairDepth) raw raw e.node := by
  -- the value of a pair is lowered at once, not asked for, so the induction is on the raw tree
  induction raw using RawNode.inductionOnParts generalizing e with
  | node raw ih =>
    have plain {exact : Bool} {n : Node} (made : Made root source exact h raw raw n) :
        Made root source false (h + raw.pairDepth) raw raw n :=
      (g.inside raw.mem_nodes_self made).mono (Nat.le_add_right h _)
    cases annotationValue_form made with
    | pair tag equals named given =>
      obtain ⟨v, found, gives⟩ := exists_of_rel_some given
      have inner := RawNode.mem_nodes_of_field? found
      have value := ih v (RawNode.mem_parts_of_field? found) (g.of_mem inner) gives
      rw [RawNode.pairDepth_of_value tag found]
      refine g.inside raw.mem_nodes_self (g.operation rfl rfl rfl
        (RawNode.mem_nodes_of_findToken? equals) (RawNode.spells_of_findToken? rfl equals)
        (forall_children_assignment.mpr ⟨?_, g.inside inner value⟩) (Nat.lt_succ_self _))
      exact g.nameField named value.pos
    | values given => exact plain (g.asked.annotationValues raw.mem_nodes_self given)
    | annotationUse given => exact plain (g.asked.annotationUse raw.mem_nodes_self given)
    | expression given => exact plain (g.expression raw.mem_nodes_self given)

/-- A value is asked for at its own node, in braces or not, so no layer is added. -/
theorem made_initializer {e : Expression} (made : Gives below initializer raw e) :
    Made root source false h raw raw e.node := by
  rcases initializer_form made with given | given
  · exact g.inside raw.mem_nodes_self (g.asked.arrayElements raw.mem_nodes_self given)
  · exact g.inside raw.mem_nodes_self (g.expression raw.mem_nodes_self given)

/-- An element of an array is asked for in the same way. -/
theorem made_arrayElement {e : Expression} (made : Gives below arrayElement raw e) :
    Made root source false h raw raw e.node := by
  rcases arrayElement_form made with given | given
  · exact g.inside raw.mem_nodes_self (g.asked.innerElements raw.mem_nodes_self given)
  · exact g.inside raw.mem_nodes_self (g.expression raw.mem_nodes_self given)

/-- A block adds one layer to its statements. -/
theorem made_block {b : Block} (made : Gives below block raw b) :
    Made root source true (h + 1) raw raw (.block b) := by
  obtain ⟨body, given, rfl⟩ := block_form made
  exact g.whole rfl rfl rfl (forall_children_block.mpr (g.asked.statements raw.mem_nodes_self given))
    (Nat.lt_succ_self h)

/-- A block that may be absent. -/
theorem made_blockPart {part : Option RawNode} {result : Option Block}
    (found : ∀ p, part = some p → p ∈ raw.nodes)
    (given : Option.Rel (Gives below block) part result) :
    ∀ b, result = some b → Made root source false (h + 1) raw raw (.block b) :=
  of_rel given fun p hp _ gives => g.inside (found p hp) (made_block (g.of_mem (found p hp)) gives)

/-! ## Variables and parameters -/

/-- The value that is held under a name. -/
theorem made_initializer_field {name : String} {value : Option Expression}
    (given : Option.Rel (Gives below initializer) (raw.field? name) value) :
    ∀ e, value = some e → Made root source false h raw raw e.node :=
  of_rel given fun _ found _ gives =>
    have inner := RawNode.mem_nodes_of_field? found
    g.inside inner (made_initializer (g.of_mem inner) gives)

/-- The type of a variable, with the brackets that stand in the variable's own declarator. -/
theorem made_declaratorType (narrow : raw.Narrow k) {p t : RawNode} {base : Expression}
    (inner : p ∈ raw.nodes) (type : t ∈ raw.nodes) (order : root.Before t p)
    (given : Gives below typeExpression t base) :
    Made root source false (h + k) raw p
      ((brackets (p.field? "dimensions")).foldl arrayOf base).node := by
  have bracketed (d : RawNode) (hd : p.field? "dimensions" = some d) : d ∈ p.nodes :=
    RawNode.mem_nodes_of_field? hd
  obtain ⟨stop, hs, last, made⟩ := made_bracketed g narrow (.refl _)
    (fun d hd => RawNode.mem_nodes_trans inner (bracketed d hd))
    (fun d hd => order.inside t.mem_nodes_self (bracketed d hd)) type given
  refine .wider (.inl ⟨g.here, type⟩) ?_ made
  -- without brackets the type stops before the declarator, and with brackets inside it
  rcases last with rfl | ⟨d, hd, held⟩
  · exact .inr order
  · exact .inl ⟨(g.of_mem inner).here, RawNode.mem_nodes_trans (bracketed d hd) held⟩

/-- A variable of a declaration is made from the declaration up to its own declarator. -/
theorem made_variableDeclarations (narrow : raw.Narrow k) {vs : List VariableDeclaration}
    (tag : raw.tag = "field_declaration" ∨ raw.tag = "constant_declaration" ∨
      raw.tag = "local_variable_declaration")
    (made : Gives below (variableDeclarations source) raw vs) :
    ∀ v ∈ vs, ∃ p ∈ raw.fields "declarator",
      Made root source true (h + k + 2) raw p (.variableDeclaration v) := by
  obtain ⟨modifiers, type, listed, given, declarators⟩ := run_variableDeclarations_eq_ok.mp made
  have before {i j : Nat} {a b : RawNode} (hij : i < j)
      (ha : a ∈ (raw.partsInOrder "field_declaration").getD i [])
      (hb : b ∈ (raw.partsInOrder "field_declaration").getD j []) : root.Before a b := by
    rcases tag with tag | tag | tag
    all_goals exact .of_tag tag g.here ha hb hij
  intro v hv
  obtain ⟨p, hp, made⟩ := exists_of_forall₂ declarators hv
  obtain ⟨base, name, value, rfl, named, init, rfl⟩ := run_declarator_eq_ok.mp made
  obtain ⟨t, found, given⟩ := exists_of_rel_some given
  have inner := raw.fields_subset_nodes "declarator" hp
  have type := RawNode.mem_nodes_of_field? found
  have gp := g.of_mem inner
  -- what stands in the declarator, and what stands before it
  have own {exact : Bool} {n : Node} (made : Made root source exact (h + k + 1) p p n) :
      Made root source false (h + k + 1) raw p n :=
    .wider (.inl ⟨g.here, inner⟩) (.inl ⟨gp.here, p.mem_nodes_self⟩) made
  refine ⟨p, hp, .node (l := h + k + 1) (by omega) (.inl ⟨g.here, inner⟩) rfl rfl
    (fun t ht => absurd ht List.not_mem_nil) nofun (forall_children_variableDeclaration.mpr ⟨?_, ?_, ?_, ?_⟩)⟩
  -- the modifiers and the type stand before every declarator
  · refine of_rel listed fun list found _ form => ?_
    have held := RawNode.mem_nodes_of_childOfTag? found
    exact .wider (.inl ⟨g.here, held⟩)
      (.inr (before (i := 0) (j := 2) (by decide) (RawNode.mem_toList found) hp))
      ((made_modifiers (g.of_mem held) form).mono (by omega))
  · have order : root.Before t p :=
      before (i := 1) (j := 2) (by decide) (RawNode.mem_toList found) hp
    exact (made_declaratorType g narrow inner type order given).mono (by omega)
  · exact own (gp.nameField named (by omega))
  · exact fun e he => own ((made_initializer_field gp init e he).mono (by omega))

/-- The part that a variable declared alone starts with: nothing of it starts earlier. -/
theorem exists_first_of_declared {t : RawNode} (found : raw.field? "type" = some t)
    (before : ∀ {i j a b}, i < j → a ∈ (raw.partsInOrder "formal_parameter").getD i [] →
      b ∈ (raw.partsInOrder "formal_parameter").getD j [] → root.Before a b) :
    ∃ first ∈ raw.nodes, (raw.childOfTag? "modifiers").or (raw.field? "type") = some first ∧
      (∀ m, raw.childOfTag? "modifiers" = some m → root.StartsBy first m) ∧
      root.StartsBy first t ∧
      ∀ {j x}, 1 < j → x ∈ (raw.partsInOrder "formal_parameter").getD j [] →
        root.Before first x := by
  have type := RawNode.mem_nodes_of_field? found
  -- without modifiers the type comes first
  cases listed : raw.childOfTag? "modifiers" with
  | none =>
    exact ⟨t, type, found, nofun, RawNode.startsBy_self (g.of_mem type).here,
      fun hj hx => before (i := 1) hj (RawNode.mem_toList found) hx⟩
  | some list =>
    have inner := RawNode.mem_nodes_of_childOfTag? listed
    refine ⟨list, inner, rfl, ?_, ?_, ?_⟩
    · rintro _ ⟨⟩
      exact RawNode.startsBy_self (g.of_mem inner).here
    · exact .inr (before (i := 0) (j := 1) (by decide) (RawNode.mem_toList listed)
        (RawNode.mem_toList found))
    · exact fun hj hx => before (i := 0) (by omega) (RawNode.mem_toList listed) hx

/-- The part that a variable declared alone stops with: nothing of it stops later. -/
theorem exists_last_of_declared {value : Option RawNode} {name : RawNode}
    (named : raw.field? "name" = some name)
    (held : ∀ p, value = some p → raw.field? "value" = some p)
    (before : ∀ {i j a b}, i < j → a ∈ (raw.partsInOrder "formal_parameter").getD i [] →
      b ∈ (raw.partsInOrder "formal_parameter").getD j [] → root.Before a b) :
    ∃ last ∈ raw.nodes, (value.or (raw.field? "dimensions")).or (raw.field? "name") = some last ∧
      (∃ j > 1, last ∈ (raw.partsInOrder "formal_parameter").getD j []) ∧
      root.StopsBy name last ∧
      (∀ d, raw.field? "dimensions" = some d → root.StopsBy d last) ∧
      ∀ p, value = some p → root.StopsBy p last := by
  have own {p : RawNode} (hp : p ∈ raw.nodes) : root.StopsBy p p :=
    RawNode.stopsBy_self (g.of_mem hp).here
  -- a value comes last, else brackets, else the name
  cases value with
  | some p =>
    have found := held p rfl
    have inner := RawNode.mem_nodes_of_field? found
    refine ⟨p, inner, rfl, ⟨4, by decide, RawNode.mem_toList found⟩, ?_, ?_, ?_⟩
    · exact .inr (before (i := 2) (j := 4) (by decide) (RawNode.mem_toList named)
        (RawNode.mem_toList found))
    · exact fun d hd => .inr (before (i := 3) (j := 4) (by decide) (RawNode.mem_toList hd)
        (RawNode.mem_toList found))
    · rintro _ ⟨⟩
      exact own inner
  | none =>
    cases bracketed : raw.field? "dimensions" with
    | some d =>
      have inner := RawNode.mem_nodes_of_field? bracketed
      refine ⟨d, inner, rfl, ⟨3, by decide, RawNode.mem_toList bracketed⟩, ?_, ?_, nofun⟩
      · exact .inr (before (i := 2) (j := 3) (by decide) (RawNode.mem_toList named)
          (RawNode.mem_toList bracketed))
      · rintro _ ⟨⟩
        exact own inner
    | none =>
      have inner := RawNode.mem_nodes_of_field? named
      exact ⟨name, inner, named, ⟨2, by decide, RawNode.mem_toList named⟩, own inner, nofun, nofun⟩

/-- A variable that is declared alone is made from its modifiers or type up to its value, brackets or
name, which are parts of its node. -/
theorem made_declaredVariable (narrow : raw.Narrow k) {value : Option RawNode}
    {v : VariableDeclaration}
    (tag : raw.tag = "formal_parameter" ∨ raw.tag = "resource" ∨
      raw.tag = "enhanced_for_statement")
    (held : ∀ p, value = some p → raw.field? "value" = some p)
    (made : (declaredVariable source raw value).run below = .ok v) :
    Made root source false (h + k + 2) raw raw (.variableDeclaration v) := by
  obtain ⟨modifiers, base, name, init, listed, given, named, valued, rfl⟩ :=
    run_declaredVariable_eq_ok.mp made
  obtain ⟨t, found, given⟩ := exists_of_rel_some given
  have before {i j : Nat} {a b : RawNode} (hij : i < j)
      (ha : a ∈ (raw.partsInOrder "formal_parameter").getD i [])
      (hb : b ∈ (raw.partsInOrder "formal_parameter").getD j []) : root.Before a b := by
    rcases tag with tag | tag | tag
    all_goals exact .of_tag tag g.here ha hb hij
  obtain ⟨first, hf, starts, listing, typing, after⟩ := exists_first_of_declared g found before
  obtain ⟨last, hl, stops, ⟨j, hj, place⟩, naming, closing, valuing⟩ :=
    exists_last_of_declared g named held before
  have span : declaredSpan raw value = first.span.through last.span := by
    rw [declaredSpan, starts, stops]
    rfl
  refine .inside (.node (l := h + k + 1) (by omega) (.inr (after hj place)) span rfl
    (fun t ht => absurd ht List.not_mem_nil) nofun
    (forall_children_variableDeclaration.mpr ⟨?_, ?_, ?_, ?_⟩)) g.here hf hl
  -- each part lies between the part that the variable starts with and the one it stops with
  · refine of_rel listed fun list found _ form => ?_
    exact .wider (listing list found)
      (.inr (before (i := 0) (j := j) (by omega) (RawNode.mem_toList found) place))
      ((made_modifiers (g.of_mem (RawNode.mem_nodes_of_childOfTag? found)) form).mono (by omega))
  · obtain ⟨stop, hs, reached, made⟩ := made_bracketed g narrow (.refl _)
      (fun _ => RawNode.mem_nodes_of_field?)
      (fun d hd => before (i := 1) (j := 3) (by decide) (RawNode.mem_toList found)
        (RawNode.mem_toList hd)) (RawNode.mem_nodes_of_field? found) given
    refine .wider typing ?_ (made.mono (by omega))
    rcases reached with rfl | ⟨d, hd, inner⟩
    · exact .inr (before (i := 1) (j := j) hj (RawNode.mem_toList found) place)
    · exact (closing d hd).inside inner
  · exact .wider (.inr (after (j := 2) (by decide) (RawNode.mem_toList named))) naming
      (.identifier (g.of_mem (RawNode.mem_nodes_of_field? named)).here (by omega))
  · refine of_rel valued fun p hp e gives => ?_
    have inner := RawNode.mem_nodes_of_field? (held p hp)
    exact .wider (.inr (after (j := 4) (by decide) (RawNode.mem_toList (held p hp)))) (valuing p hp)
      ((g.expression inner gives).mono (by omega))

/-- The dots of a parameter of variable arity count as one more pair of brackets, before those of its
name. -/
theorem pairwise_before_variadic (tag : raw.tag = "spread_parameter") {t declarator : RawNode}
    (first : (raw.namedChildren.find? fun child =>
      child.tag != "modifiers" && child.tag != "variable_declarator") = some t)
    (found : raw.childOfTag? "variable_declarator" = some declarator) :
    (t :: ((raw.findToken? "...").toList ++
      brackets (declarator.field? "dimensions"))).Pairwise root.Before := by
  have last : root.Before t declarator := .of_tag tag g.here (i := 0) (j := 2)
    (RawNode.mem_toList first) (RawNode.mem_toList found) (by decide)
  have inner {a d : RawNode} (order : root.Before a declarator)
      (hd : declarator.field? "dimensions" = some d) : root.Before a d :=
    order.inside a.mem_nodes_self (RawNode.mem_nodes_of_field? hd)
  cases dotted : raw.findToken? "..." with
  | none => exact pairwise_before_cons_brackets fun d hd => inner last hd
  | some dots =>
    have middle : root.Before dots declarator := .of_tag tag g.here (i := 1) (j := 2)
      (RawNode.mem_toList dotted) (RawNode.mem_toList found) (by decide)
    show (t :: dots :: brackets _).Pairwise root.Before
    rw [List.pairwise_cons, List.forall_mem_cons]
    refine ⟨⟨?_, fun c hc => ?_⟩, pairwise_before_cons_brackets fun d hd => inner middle hd⟩
    · exact .of_tag tag g.here (i := 0) (j := 1) (RawNode.mem_toList first)
        (RawNode.mem_toList dotted) (by decide)
    · obtain ⟨d, hd, held⟩ := exists_of_mem_brackets hc
      exact (inner last hd).inside t.mem_nodes_self held

/-- The type of the parameter stands before its dots, and its name and brackets in a declarator after
them. -/
theorem made_spreadParameter (narrow : raw.Narrow k) (tag : raw.tag = "spread_parameter")
    {v : VariableDeclaration} (made : (spreadParameter source raw).run below = .ok v) :
    Made root source true (h + k + 2) raw raw (.variableDeclaration v) := by
  obtain ⟨modifiers, element, declarator, name, value, listed, given, found, named, init, rfl⟩ :=
    run_spreadParameter_eq_ok.mp made
  obtain ⟨t, first, given⟩ := exists_of_rel_some given
  have inner := RawNode.mem_nodes_of_childOfTag? found
  have type : t ∈ raw.nodes := raw.namedChildren_subset_nodes (List.mem_of_find?_eq_some first)
  have bracketed (d : RawNode) (hd : declarator.field? "dimensions" = some d) : d ∈ raw.nodes :=
    RawNode.mem_nodes_trans inner (RawNode.mem_nodes_of_field? hd)
  obtain ⟨stop, hs, variadic⟩ :=
    (g.type type given).foldl_arrayOf (pairwise_before_variadic g tag first found)
  refine g.whole (l := h + k + 1) rfl rfl rfl
    (forall_children_variableDeclaration.mpr ⟨?_, ?_, ?_, ?_⟩) (by omega)
  · exact fun m hm => (made_modifiersOf g listed m hm).mono (by omega)
  -- there is one layer for the dots, and one for each pair of brackets
  · have dots : (raw.findToken? "...").toList.length ≤ 1 := by
      cases raw.findToken? "..." <;> simp
    have last : stop ∈ raw.nodes := by
      rw [List.mem_cons, List.mem_append] at hs
      rcases hs with rfl | hs | hs
      · exact type
      · exact RawNode.mem_nodes_of_findToken? (Option.mem_toList.mp hs)
      · obtain ⟨d, hd, held⟩ := exists_of_mem_brackets hs
        exact RawNode.mem_nodes_trans (bracketed d hd) held
    have := length_brackets_le narrow bracketed
    rw [List.length_append] at variadic
    exact (variadic.inside g.here type last).mono (by omega)
  · exact g.name (RawNode.mem_nodes_trans inner (RawNode.mem_nodes_of_field? named)) (by omega)
  · exact fun e he =>
      (g.inside inner (made_initializer_field (g.of_mem inner) init e he)).mono (by omega)

/-- A parameter of either sort. -/
theorem made_parameter (narrow : raw.Narrow k) {v : VariableDeclaration}
    (made : Gives below (parameter source) raw v) :
    Made root source false (h + k + 2) raw raw (.variableDeclaration v) := by
  rcases parameter_form made with ⟨tag, made⟩ | ⟨tag, made⟩
  · exact made_declaredVariable g narrow (.inl tag) (by simp) made
  · exact g.inside raw.mem_nodes_self (made_spreadParameter g narrow tag made)

/-- The parameters between parentheses. -/
theorem made_parameters (narrow : raw.Narrow k) {list : Option RawNode}
    (found : ∀ l, list = some l → l ∈ raw.nodes) {vs : List VariableDeclaration}
    (given : List.Forall₂ (Gives below (parameter source)) (items list) vs) :
    ∀ v ∈ vs, Made root source false (h + k + 2) raw raw (.variableDeclaration v) :=
  of_forall₂ given fun _ hp _ gives =>
    have inner := mem_nodes_of_mem_items found hp
    g.inside inner (made_parameter (g.of_mem inner) (narrow.of_mem inner) gives)

/-! ## Parts of expressions -/

/-- What a call selects: a name, a member of an object, or a member of `super` of an object. -/
theorem made_calleeForm (tag : raw.tag = "method_invocation") {e : Expression}
    (form : CalleeForm source below raw e) : Made root source false (h + 2) raw raw e.node := by
  cases form with
  | plain absent named => exact g.nameField named (by omega)
  | qualified given named =>
    obtain ⟨object, found, given⟩ := exists_of_rel_some given
    have inner := RawNode.mem_nodes_of_field? found
    have order : root.Before object _ := .of_tag tag g.here (i := 0) (j := 2)
      (RawNode.mem_toList found) (RawNode.mem_toList named) (by decide)
    exact (Made.select (l := h) (by omega) order (g.expression inner given)).inside g.here inner
      (RawNode.mem_nodes_of_field? named)
  | @outerSuper held object keyword name found given listed between named =>
    -- two selections are put together, the inner one up to the keyword
    have inner := RawNode.mem_nodes_of_field? found
    have keyed : keyword ∈ raw.innerSupers := by
      refine List.mem_filter.mpr ⟨listed, ?_⟩
      rw [found]
      simpa using between
    have first : root.Before held keyword := .of_tag tag g.here (i := 0) (j := 1)
      (RawNode.mem_toList found) keyed (by decide)
    have second : root.Before keyword name := .of_tag tag g.here (i := 1) (j := 2) keyed
      (RawNode.mem_toList named) (by decide)
    exact (Made.select (l := h + 1) (by omega) second
      (.select (l := h) (by omega) first (g.expression inner given))).inside g.here inner
      (RawNode.mem_nodes_of_field? named)

/-- A size adds nothing to the expression in its brackets. -/
theorem made_arraySize {e : Expression} (made : Gives below arraySize raw e) :
    Made root source false h raw raw e.node := by
  obtain ⟨size, last, given⟩ := arraySize_form made
  have inner := raw.namedChildren_subset_nodes (List.mem_filter.mp (List.mem_of_getLast? last)).1
  exact g.inside inner (g.expression inner given)

/-- A block adds a layer, an expression does not. -/
theorem made_lambdaBody {body : LambdaBody} (form : LambdaBodyForm below raw body) :
    Made root source false (h + 1) raw raw body.node := by
  cases form with
  | block given => exact g.inside raw.mem_nodes_self (made_block g given)
  | expression given =>
    exact (g.inside raw.mem_nodes_self (g.expression raw.mem_nodes_self given)).mono
      (Nat.le_succ h)

/-- Names, or variables with types. -/
theorem made_lambdaParameters (narrow : raw.Narrow k) {list : Option RawNode}
    (found : ∀ l, list = some l → l ∈ raw.nodes) {parameters : List LambdaParameter}
    (form : LambdaParametersForm source below list parameters) :
    ∀ p ∈ parameters, Made root source false (h + k + 2) raw raw p.node := by
  intro p hp
  cases form with
  | absent => exact absurd hp List.not_mem_nil
  | single name =>
    rw [List.mem_singleton] at hp
    rw [hp]
    exact g.name (found name rfl) (by omega)
  | inferred list =>
    obtain ⟨name, hn, rfl⟩ := List.mem_map.mp hp
    exact g.name (RawNode.mem_nodes_trans (found list rfl) (list.namedChildren_subset_nodes hn))
      (by omega)
  | declared given =>
    obtain ⟨v, hv, rfl⟩ := List.mem_map.mp hp
    exact made_parameters g narrow found given v hv

/-- The element type of an array creation, in as many array types as empty pairs of brackets ask
for. -/
theorem made_creationBrackets (narrow : raw.Narrow k) (tag : raw.tag = "array_creation_expression")
    (sizes : List Expression) {base : Expression}
    (made : Option.Rel (Gives below typeExpression) (raw.field? "type") (some base)) :
    Made root source false (h + k) raw raw
      ((creationBrackets raw sizes).foldl arrayOf base).node := by
  obtain ⟨t, found, given⟩ := exists_of_rel_some made
  have inner := RawNode.mem_nodes_of_field? found
  let pairs := ((raw.fields "dimensions").filter fun d => !(d.tag == "dimensions_expr")).getLast?
  have listed (d : RawNode) (hd : pairs = some d) : d ∈ raw.fields "dimensions" :=
    (List.mem_filter.mp (List.mem_of_getLast? hd)).1
  have order (d : RawNode) (hd : pairs = some d) : root.Before t d :=
    .of_tag tag g.here (i := 0) (j := 1) (RawNode.mem_toList found) (listed d hd) (by decide)
  -- the element type of an array with sizes has one dimension fewer
  have few : (creationBrackets raw sizes).Sublist (brackets pairs) := by
    unfold creationBrackets
    dsimp only
    split
    · exact List.drop_sublist 1 _
    · exact .refl _
  obtain ⟨stop, last, -, made⟩ := made_bracketed g narrow few
    (fun d hd => raw.fields_subset_nodes _ (listed d hd)) order inner given
  exact made.inside g.here inner last

/-! ## Expressions -/

/-- All expressions. A lambda has the most layers, for its parameters are variables with brackets. -/
theorem made_expressionForm (narrow : raw.Narrow k) {e : Expression}
    (form : ExpressionForm source below raw e) :
    Made root source true (h + k + 3) raw raw e.node := by
  cases form with
  | literal =>
    exact g.operation (l := 0) rfl rfl rfl raw.mem_nodes_self nofun forall_children_literal (by omega)
  | name => exact .identifier g.here (by omega)
  | type form => exact (made_typeForm g narrow form).mono (by omega)
  -- the node selects its last part from what its first part is lowered to
  | @fieldAccess _ name tag given named =>
    obtain ⟨object, found, given⟩ := exists_of_rel_some given
    have inner := RawNode.mem_nodes_of_field? found
    exact .selection (l := h) (by omega) g.here ((RawNode.qualifier?_fieldAccess tag).trans found)
      ((RawNode.selected?_fieldAccess tag).trans named) inner (g.expression inner given)
  | @outerSuperAccess _ first middle last name tag given parts keyword named =>
    obtain ⟨object, found, given⟩ := exists_of_rel_some given
    have inner := RawNode.mem_nodes_of_field? found
    have second : raw.middle? = some middle := by
      rw [RawNode.middle?, parts]
    -- the keyword in the middle is selected first, and the raw node is a selection from that
    have order : root.Before object middle := .of_tag tag g.here (i := 0) (j := 1)
      (RawNode.mem_toList found) (RawNode.mem_toList second) (by decide)
    exact .selection (l := h + 1) (by omega) g.here
      ((RawNode.qualifier?_fieldAccess tag).trans found)
      ((RawNode.selected?_fieldAccess tag).trans named)
      (raw.namedChildren_subset_nodes (RawNode.mem_namedChildren_of_middle? second))
      (.select (l := h) (by omega) order (g.expression inner given))
  | parenthesized tag given =>
    exact g.whole rfl rfl rfl (forall_children_parenthesized.mpr (g.head given _ rfl)) (by omega)
  | call tag called typed given =>
    refine g.whole (l := h + 2) rfl rfl rfl (forall_children_methodInvocation.mpr ⟨?_, ?_, ?_⟩)
      (by omega)
    · exact made_calleeForm g tag called
    · exact fun t ht =>
        (g.typeItems (fun _ => RawNode.mem_nodes_of_field?) typed t ht).mono (by omega)
    · exact fun e he => (g.items (fun _ => RawNode.mem_nodes_of_field?) given e he).mono (by omega)
  -- every part lies inside the node, and the node takes all of it
  | creation tag outer typed made given extended =>
    refine g.whole (l := h) rfl rfl rfl (forall_children_newClass.mpr ⟨?_, ?_, ?_, ?_, ?_⟩) (by omega)
    · exact g.expressionPart (fun p found => raw.children_subset_nodes
        (List.mem_of_head? (Option.filter_eq_some_iff.mp found).1)) outer
    · exact g.typeItems (fun _ => RawNode.mem_nodes_of_field?) typed
    · exact g.typeField made _ rfl
    · exact g.items (fun _ => RawNode.mem_nodes_of_field?) given
    · exact of_rel extended fun p found _ gives =>
        have inner := RawNode.mem_nodes_of_childOfTag? found
        g.inside inner (g.asked.anonymousClass inner gives)
  | arrayCreation tag made sized filled =>
    refine g.whole (l := h + k) rfl rfl rfl (forall_children_newArray.mpr ⟨?_, ?_, ?_⟩) (by omega)
    · intro t ht
      obtain ⟨base, rfl, rfl⟩ := Option.map_eq_some_iff.mp ht
      exact made_creationBrackets g narrow tag _ made
    · exact of_forall₂ sized fun p hp _ gives =>
        have inner := raw.fields_subset_nodes "dimensions" (List.mem_filter.mp hp).1
        (g.inside inner (made_arraySize (g.of_mem inner) gives)).mono (Nat.le_add_right h k)
    · exact of_forall₂ filled fun p hp _ gives =>
        have inner := mem_nodes_of_mem_items (fun _ => RawNode.mem_nodes_of_field?) hp
        (g.inside inner (made_arrayElement (g.of_mem inner) gives)).mono (Nat.le_add_right h k)
  | arrayAccess tag given at_ =>
    refine g.whole (l := h) rfl rfl rfl (forall_children_arrayAccess.mpr ⟨?_, ?_⟩) (by omega)
    · exact g.field given _ rfl
    · exact g.field at_ _ rfl
  | cast tag typed given =>
    refine g.whole (l := h) rfl rfl rfl (forall_children_typeCast.mpr ⟨?_, ?_⟩) (by omega)
    · exact g.typePart (fun _ found =>
        raw.fields_subset_nodes "type" (List.mem_of_head? found)) typed _ rfl
    · exact g.field given _ rfl
  | instanceOf tag found given typed =>
    refine g.operation (l := h) rfl rfl rfl (RawNode.mem_nodes_of_findToken? found)
      (RawNode.spells_of_findToken? rfl found) (forall_children_instanceOf.mpr ⟨?_, ?_⟩) (by omega)
    · exact g.field given _ rfl
    · exact g.typeField typed _ rfl
  | conditional tag tested met unmet =>
    refine g.whole (l := h) rfl rfl rfl (forall_children_conditional.mpr ⟨?_, ?_, ?_⟩) (by omega)
    · exact g.field tested _ rfl
    · exact g.field met _ rfl
    · exact g.field unmet _ rfl
  | unary tag found known given =>
    exact g.operation (l := h) rfl rfl rfl (RawNode.mem_nodes_of_field? found)
      (RawNode.spells_of_text rfl (UnaryOperation.text_of_ofText? known))
      (forall_children_unary.mpr (g.field given _ rfl)) (by omega)
  | binary tag found known first second =>
    refine g.operation (l := h) rfl rfl rfl (RawNode.mem_nodes_of_field? found)
      (RawNode.spells_of_text rfl (BinaryOperation.text_of_ofText? known))
      (forall_children_binary.mpr ⟨?_, ?_⟩) (by omega)
    · exact g.field first _ rfl
    · exact g.field second _ rfl
  | assignment tag found known assigned given =>
    refine g.operation (l := h) rfl rfl rfl (RawNode.mem_nodes_of_field? found)
      (RawNode.spells_of_text rfl (AssignmentOperation.text_of_ofText? known))
      (forall_children_assignment.mpr ⟨?_, ?_⟩) (by omega)
    · exact g.field assigned _ rfl
    · exact g.field given _ rfl
  -- the operator may stand before its operand or behind it, and belongs to the node in both places
  | update tag found known given =>
    have token := raw.parts_subset_nodes (raw.tokens_subset_parts (List.mem_of_find?_eq_some found))
    exact g.operation (l := h) rfl rfl rfl token
      (RawNode.spells_of_text rfl (UnaryOperation.text_of_ofText? known))
      (forall_children_unary.mpr (g.head given _ rfl)) (by omega)
  | lambda tag declared given =>
    obtain ⟨p, found, body⟩ := exists_of_rel_some given
    have inner := RawNode.mem_nodes_of_field? found
    refine g.whole (l := h + k + 2) rfl rfl rfl (forall_children_lambda.mpr ⟨?_, ?_⟩) (by omega)
    · exact made_lambdaParameters g narrow (fun _ => RawNode.mem_nodes_of_field?) declared
    · exact (g.inside inner (made_lambdaBody (g.of_mem inner) body)).mono (by omega)
  | methodReference tag given named =>
    refine g.whole (l := h + 1) rfl rfl rfl (forall_children_methodReference.mpr ⟨?_, ?_⟩) (by omega)
    · exact (g.head given _ rfl).mono (by omega)
    · refine g.name ?_ (by omega)
      rcases Option.or_eq_some_iff.mp named with found | ⟨-, found⟩
      · exact RawNode.mem_nodes_of_findToken? found
      · exact raw.namedChildren_subset_nodes (List.mem_of_getElem? found)
  -- the keyword is selected from the type as if it were a name
  | @classLiteral type _ keyword tag first found given =>
    have inner := raw.namedChildren_subset_nodes (List.mem_of_head? first)
    have lead : raw.lead? = some type := by
      rw [RawNode.lead?, tag]
      exact first
    have order : root.Before type keyword := .of_tag tag g.here (i := 0) (j := 1)
      (RawNode.mem_toList first) (RawNode.mem_toList found) (by decide)
    exact .led g.here lead (RawNode.mem_nodes_of_findToken? found)
      (.select (l := h) (by omega) order (g.type inner given))

end Lowering

end JavaSyntax
