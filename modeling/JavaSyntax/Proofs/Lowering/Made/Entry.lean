import JavaSyntax.Proofs.Build.Entry
import JavaSyntax.Proofs.Lowering.Made.Statement

/-!
# What whole sources are made from

A construct adds as many layers to what it asks for as there are brackets or pairs in one place, and
four. What answers the requests is lowered with less room, so a built tree has as many layers as the
room allows.

* `made_body`: all that a construct is lowered to is made from its node;
* `grounded_lower`: so is all that its nested constructs are lowered to;
* `Entry.made_of_build`: so is all that is built.
-/

namespace JavaSyntax

open Node

namespace Lowering

variable {root raw : RawNode} {source : String} {below : Answers} {h k : Nat}

section

variable (g : Grounded root source h below raw)

include g

/-! ## All constructs -/

/-- The values may be pairs, whose depth `k` bounds. -/
theorem made_annotationBody (narrow : raw.Narrow k) {use : AnnotationUse}
    (made : (annotationBody source raw).run below = .ok use) :
    Made root source true (h + k + 1) raw raw (.annotationUse use) := by
  obtain ⟨type, arguments, given, values, rfl⟩ := annotationBody_form made
  refine g.whole (l := h + k) rfl rfl rfl (forall_children_annotationUse.mpr ⟨?_, ?_⟩) (by omega)
  · exact (g.field given _ rfl).mono (Nat.le_add_right h k)
  · exact of_forall₂ values fun p hp _ gives =>
      have inner := mem_nodes_of_mem_items (fun _ => RawNode.mem_nodes_of_field?) hp
      (g.inside inner (made_annotationValue (g.of_mem inner) gives)).mono
        (Nat.add_le_add_left (narrow p inner).2 h)

/-- Values in braces are one layer above their elements. -/
theorem made_arrayElementsBody {e : Expression}
    (made : (arrayElementsBody raw).run below = .ok e) :
    Made root source true (h + 1) raw raw e.node := by
  obtain ⟨elements, given, rfl⟩ := run_arrayElementsBody_eq_ok.mp made
  refine g.whole (l := h) rfl rfl rfl (forall_children_newArray.mpr ⟨by simp, by simp, ?_⟩)
    (Nat.lt_succ_self h)
  exact of_forall₂ given fun p hp _ gives =>
    have inner := raw.namedChildren_subset_nodes hp
    g.inside inner (made_initializer (g.of_mem inner) gives)

/-- Inner braces likewise. -/
theorem made_innerElementsBody {e : Expression}
    (made : (innerElementsBody raw).run below = .ok e) :
    Made root source true (h + 1) raw raw e.node := by
  obtain ⟨elements, given, rfl⟩ := innerElementsBody_form made
  refine g.whole (l := h) rfl rfl rfl (forall_children_newArray.mpr ⟨by simp, by simp, ?_⟩)
    (Nat.lt_succ_self h)
  exact of_forall₂ given fun p hp _ gives =>
    have inner := raw.namedChildren_subset_nodes hp
    g.inside inner (made_arrayElement (g.of_mem inner) gives)

/-- Values of an annotation in braces, any of which can be pairs. -/
theorem made_annotationValuesBody (narrow : raw.Narrow k) {e : Expression}
    (made : (annotationValuesBody source raw).run below = .ok e) :
    Made root source true (h + k + 1) raw raw e.node := by
  obtain ⟨elements, given, rfl⟩ := annotationValuesBody_form made
  refine g.whole (l := h + k) rfl rfl rfl (forall_children_newArray.mpr ⟨by simp, by simp, ?_⟩)
    (by omega)
  exact of_forall₂ given fun p hp _ gives =>
    have inner := raw.namedChildren_subset_nodes hp
    (g.inside inner (made_annotationValue (g.of_mem inner) gives)).mono
      (Nat.add_le_add_left (narrow p inner).2 h)

/-- **A construct is made from its node.** It adds as many layers as there are brackets or pairs in
one place, and four. -/
theorem made_body (narrow : raw.Narrow k) (construct : Construct) {result : construct.Result}
    (made : (body source construct raw).run below = .ok result) :
    ∀ n ∈ construct.nodes result,
      Made root source construct.isExact (h + (k + 4)) raw raw n := by
  have own {n : Node} {l : Nat} (made : Made root source true l raw raw n) (hl : l ≤ h + (k + 4)) :
      Made root source false (h + (k + 4)) raw raw n :=
    (g.inside raw.mem_nodes_self made).mono hl
  -- the bounds of the forms are all within the largest of them
  cases construct with
  | expression =>
    rw [Construct.nodes, List.forall_mem_singleton]
    exact (made_expressionForm g narrow (expressionBody_form made)).mono (by omega)
  | type =>
    rw [Construct.nodes, List.forall_mem_singleton]
    exact (made_typeForm g narrow (typeBody_form made)).mono (by omega)
  | statement =>
    rw [Construct.nodes, List.forall_mem_singleton]
    exact made_statementForm g narrow (statementBody_form made)
  | statements =>
    rw [Construct.nodes, List.forall_mem_map]
    exact fun s hs => (made_statementList g narrow made s hs).mono (by omega)
  | typeDeclaration =>
    rw [Construct.nodes, List.forall_mem_singleton]
    exact own (made_typeDeclarationBody g narrow made) (Nat.le_refl _)
  | anonymousClass =>
    rw [Construct.nodes, List.forall_mem_singleton]
    exact own (made_anonymousClassBody g narrow made) (Nat.le_refl _)
  | annotationUse =>
    rw [Construct.nodes, List.forall_mem_singleton]
    exact own (made_annotationBody g narrow made) (by omega)
  | caseGroup =>
    obtain ⟨labels, statements⟩ := made_caseGroupBody g narrow made
    rw [Construct.nodes, List.forall_mem_append, List.forall_mem_map, List.forall_mem_map]
    exact ⟨fun l hl => (labels l hl).mono (by omega), fun s hs => (statements s hs).mono (by omega)⟩
  | arrayElements =>
    rw [Construct.nodes, List.forall_mem_singleton]
    exact own (made_arrayElementsBody g made) (by omega)
  | innerElements =>
    rw [Construct.nodes, List.forall_mem_singleton]
    exact own (made_innerElementsBody g made) (by omega)
  | annotationValues =>
    rw [Construct.nodes, List.forall_mem_singleton]
    exact own (made_annotationValuesBody g narrow made) (by omega)

/-! ## Whole sources -/

/-- An import on demand selects the asterisk from the package, for which there is one layer more. -/
theorem made_importDeclaration (tag : raw.tag = "import_declaration") {i : Import}
    (made : Gives below (importDeclaration source) raw i) :
    Made root source true (h + 2) raw raw (.importDeclaration i) := by
  obtain ⟨name, form, rfl⟩ := importDeclaration_form made
  have named {p : RawNode} (hp : (raw.namedChildren.find? fun c => c.tag != "asterisk") = some p) :
      p ∈ raw.nodes :=
    raw.namedChildren_subset_nodes (List.mem_of_find?_eq_some hp)
  refine g.whole (l := h + 1) rfl rfl rfl (forall_children_importDeclaration.mpr ?_) (by omega)
  cases form with
  | plain given =>
    exact (g.expressionPart (fun _ => named) given _ rfl).mono (Nat.le_succ h)
  | onDemand given star =>
    obtain ⟨package, found, given⟩ := exists_of_rel_some given
    have order : root.Before package _ := .of_tag tag g.here (i := 0) (j := 1)
      (RawNode.mem_toList found) (RawNode.mem_toList star) (by decide)
    exact (Made.select (Nat.lt_succ_self h) order (g.expression (named found) given)).inside g.here
      (named found) (RawNode.mem_nodes_of_childOfTag? star)

/-- What one declaration at the top of a source makes. -/
theorem made_unitParts {parts : List UnitPart} (made : Gives below (unitParts source) raw parts) :
    ∀ part ∈ parts, Made root source false (h + 2) raw raw part.node := by
  cases unitParts_form made with
  | package tag given =>
    refine of_forall₂ given fun p hp part gives => ?_
    have inner := raw.namedChildren_subset_nodes hp
    cases packagePart_form gives with
    | annotationUse isUse given =>
      exact (g.inside inner (g.asked.annotationUse inner given)).mono (by omega)
    | name notUse given => exact (g.inside inner (g.expression inner given)).mono (by omega)
  | importDeclaration tag given =>
    rw [List.forall_mem_singleton]
    exact g.inside raw.mem_nodes_self (made_importDeclaration g tag given)
  | type isType given =>
    rw [List.forall_mem_singleton]
    exact (g.asked.typeDeclaration raw.mem_nodes_self given).mono (by omega)

/-- A unit is one layer above its parts. -/
theorem made_compilationUnit {unit : CompilationUnit}
    (made : (compilationUnit source raw).run below = .ok unit) :
    Made root source true (h + 3) raw raw (.compilationUnit unit) := by
  obtain ⟨groups, given, rfl⟩ := compilationUnit_form made
  refine g.whole (l := h + 2) rfl rfl rfl (forall_children_unit ?_) (by omega)
  refine of_forall₂_flatten given fun p hp _ gives part found => ?_
  have inner := raw.namedChildren_subset_nodes hp
  exact g.inside inner (made_unitParts (g.of_mem inner) gives part found)

end

/-! ## Nested constructs -/

/-- **What is lowered with less room is made in fewer layers.** The induction is on the room: a
construct with one more asks for what is lowered with less. -/
theorem grounded_lower {limit room : Nat} (here : raw ∈ root.nodes) (narrow : raw.Narrow k) :
    Grounded root source (room * (k + 4)) (lower source limit room) raw := by
  refine ⟨here, ?_⟩
  induction room generalizing raw with
  | zero =>
    intro construct p hp result made
    rw [lower_zero] at made
    exact absurd made nofun
  | succ room ih =>
    intro construct p hp result made
    rw [lower_succ] at made
    rw [Nat.succ_mul]
    have held := RawNode.mem_nodes_trans here hp
    exact made_body ⟨held, ih held (narrow.of_mem hp)⟩ (narrow.of_mem hp) construct made

end Lowering

/-! ## Entries -/

/-- The three entries, each by the construct that it starts with. -/
theorem Entry.made_of_lowering {entry : Entry} {source : String} {root : RawNode} {h k : Nat}
    {below : Answers} (g : Grounded root source h below root) (narrow : root.Narrow k)
    {tree : entry.Result} (made : (entry.lowering source root).run below = .ok tree) :
    ∀ n ∈ entry.nodes tree, Made root source false (h + (k + 4)) root root n := by
  cases entry with
  | compilationUnit =>
    rw [nodes, List.forall_mem_singleton]
    exact (g.inside root.mem_nodes_self (Lowering.made_compilationUnit g made)).mono (by omega)
  | expression =>
    obtain ⟨inner, found, given⟩ := Lowering.soleExpression_inner made
    rw [nodes, List.forall_mem_singleton]
    exact (g.inside found (g.expression found given)).mono (Nat.le_add_right h _)
  | statements =>
    rw [nodes, List.forall_mem_map]
    exact fun s hs => (Lowering.made_statementList g narrow made s hs).mono (by omega)

/-- **All that is built is made from the root.** It has as many layers as the limit of nesting and
the brackets or pairs in one place allow. -/
theorem Entry.made_of_build {entry : Entry} {config : BuildConfig} {parsed : ParseResult} {k : Nat}
    {tree : entry.Result} (narrow : parsed.root.Narrow k)
    (built : entry.build config parsed = .ok tree) :
    ∀ n ∈ entry.nodes tree, Made parsed.root parsed.source false ((config.maxDepth + 1) * (k + 4))
      parsed.root parsed.root n := by
  rw [Entry.build_of_intact (Entry.intact_of_build built)] at built
  rw [Nat.succ_mul]
  exact made_of_lowering (Lowering.grounded_lower parsed.root.mem_nodes_self narrow) narrow built

end JavaSyntax
