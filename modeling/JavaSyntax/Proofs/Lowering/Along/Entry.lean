import JavaSyntax.Proofs.Build.Entry
import JavaSyntax.Proofs.Lowering.Along.Expression
import JavaSyntax.Proofs.Lowering.Along.Statement
import JavaSyntax.Proofs.Lowering.Forms.Entry

/-!
# Whole sources along the source

* `Orderly.body`: what a construct is lowered to stands along its node;
* `orderly_lower`: so does all that its nested constructs are lowered to;
* `Orderly.unitParts`: the parts of a unit stand in the order of the declarations they come from.

What a construct asks for is asked for at a node of the tree, so the induction is the one on levels of
nesting (`lower_induction`): if all requests one level below keep to the source, so does what the
construct makes of them. A unit has imports and types in separate slots, although the source may mix
them, so that its children need not be in order. What is in order is the list of its parts.
-/

namespace JavaSyntax

namespace Lowering

variable {root raw : RawNode} {source : String} {below : Answers}

namespace Orderly

variable (o : Orderly root below)

include o

/-! ## All constructs -/

/-- The use of an annotation: its name, and the arguments behind it. -/
theorem annotationBody :
    Keeps root (fun p use => (annotationBody source p).run below = .ok use)
      fun use => [.annotationUse use] := by
  intro raw here use made
  obtain ⟨type, arguments, given, values, rfl⟩ := annotationBody_form made
  have order := (o.sequenced raw here).declared.pick [4, 5] (by decide)
  exact o.whole here rfl (.flatten order (.cons (o.expression.field here given)
    (.cons (o.itemsField here o.annotationValue values) .nil))) rfl

/-- Elements between braces stand one after the other. -/
theorem arrayElementsBody :
    Keeps root (fun p e => (arrayElementsBody p).run below = .ok e) fun e => [e.node] := by
  intro raw here e made
  obtain ⟨elements, given, rfl⟩ := run_arrayElementsBody_eq_ok.mp made
  exact o.whole here rfl (o.each here o.initializer raw.namedChildren_sublist_parts given)
    (List.append_nil _).symm

/-- Like `arrayElementsBody`, for braces inside the creation of an array. -/
theorem innerElementsBody :
    Keeps root (fun p e => (innerElementsBody p).run below = .ok e) fun e => [e.node] := by
  intro raw here e made
  obtain ⟨elements, given, rfl⟩ := innerElementsBody_form made
  exact o.whole here rfl (o.each here o.arrayElement raw.namedChildren_sublist_parts given)
    (List.append_nil _).symm

/-- Like `arrayElementsBody`, for values of an annotation. -/
theorem annotationValuesBody :
    Keeps root (fun p e => (annotationValuesBody source p).run below = .ok e) fun e => [e.node] := by
  intro raw here e made
  obtain ⟨elements, given, rfl⟩ := annotationValuesBody_form made
  exact o.whole here rfl (o.each here o.annotationValue raw.namedChildren_sublist_parts given)
    (List.append_nil _).symm

theorem body (construct : Construct) :
    Keeps root (fun p result => (Lowering.body source construct p).run below = .ok result)
      construct.nodes := by
  intro raw here result made
  cases construct with
  | expression => exact o.expressionForm here (expressionBody_form made)
  | type => exact o.typeForm here (typeBody_form made)
  | statement => exact o.statementForm here (statementBody_form made)
  | statements => exact o.statementList raw here result made
  | typeDeclaration => exact o.typeDeclarationBody raw here result made
  | anonymousClass => exact o.anonymousClassBody raw here result made
  | annotationUse => exact o.annotationBody raw here result made
  | caseGroup => exact o.caseGroupBody raw here result made
  | arrayElements => exact o.arrayElementsBody raw here result made
  | innerElements => exact o.innerElementsBody raw here result made
  | annotationValues => exact o.annotationValuesBody raw here result made

end Orderly

/-- **All that is lowered of a tree in sequence stands along it.** -/
theorem orderly_lower {limit room : Nat} (sequenced : root.Sequenced) :
    Orderly root (lower source limit room) := by
  refine ⟨sequenced, fun construct p hp result made => ?_⟩
  -- the induction is on what is lowered, for all nodes of the tree at once
  have along := lower_induction (motive := fun construct p result =>
    p ∈ root.nodes → Along [p] (construct.nodes result))
    (fun below ih construct p result made hp =>
      Orderly.body ⟨sequenced, fun construct p hp result made => ih construct p result made hp⟩
        construct p hp result made) made
  exact along hp

/-! ## Whole sources -/

namespace Orderly

variable (o : Orderly root below)

include o

/-- An import; the asterisk comes after the package from which it selects. -/
theorem importDeclaration (here : raw ∈ root.nodes) (tag : raw.tag = "import_declaration")
    {i : Import} (made : Gives below (importDeclaration source) raw i) :
    Along [raw] [.importDeclaration i] := by
  obtain ⟨name, form, rfl⟩ := importDeclaration_form made
  have order := (o.sequenced raw here).row tag List.mem_cons_self
  have named (p : RawNode)
      (found : (raw.namedChildren.find? fun child => child.tag != "asterisk") = some p) :
      p ∈ root.nodes :=
    RawNode.inner_of_namedChildren here (List.mem_of_find?_eq_some found)
  cases form with
  | plain given => exact o.whole here rfl (o.expression.part named given) rfl
  -- the selection is put together, and needs that the asterisk stands behind the package
  | onDemand given star =>
    have last := RawNode.inner_of_childOfTag? here star
    have imported := o.select source last (o.expression.part named given) fun p hp =>
      order.le_of_places (i := 0) (j := 1) (by decide) hp (RawNode.mem_toList star)
    exact o.whole here rfl imported rfl

/-- A part of a package declaration. -/
theorem packagePart : Keeps root (PackagePartForm below) fun part => [part.node] := by
  intro raw here part form
  cases form with
  | annotationUse isUse given => exact o.annotationUse raw here _ given
  | name notUse given => exact o.expression raw here _ given

/-- What one declaration at the top of a source contributes. -/
theorem unitPartsForm :
    Keeps root (UnitPartsForm source below) fun parts => parts.map UnitPart.node := by
  intro raw here parts form
  cases form with
  | package tag given =>
    exact o.inside here raw.namedChildren_subset_nodes (o.each here o.packagePart
      raw.namedChildren_sublist_parts (given.imp fun _ _ => packagePart_form))
  | importDeclaration tag given => exact o.importDeclaration here tag given
  | type isType given => exact o.typeDeclaration raw here _ given

/-- The parts of a unit stand in the order of the declarations at the top of the source. -/
theorem unitParts {groups : List (List UnitPart)}
    (given : List.Forall₂ (UnitPartsForm source below) root.namedChildren groups) :
    Along root.namedChildren (groups.flatten.map UnitPart.node) :=
  o.gatherLists root.mem_nodes_self o.unitPartsForm root.namedChildren_sublist_parts given

end Orderly

end Lowering

end JavaSyntax
