import JavaSyntax.Proofs.Lowering.Made.Expression

/-!
# What types and their members are made from

* `made_memberForm`, `made_members`: the members of a type;
* `made_typeDeclarationBody`, `made_anonymousClassBody`: a type is made from its raw node.

The number of layers is counted from below. What a construct asks for is made in at most `h` layers, as
`Grounded` has it, and each form adds the layers that it makes itself: one for its own node, and one for
each node between that and what it asked for. Closing brackets and pairs of annotations make layers that
the source decides; `RawNode.Narrow` bounds them by `k`. So a header adds a constant, a member adds `k`
and a constant, and a whole type is made in `h + (k + 4)` layers, which is the bound for one level of
nesting (`JavaSyntax.Proofs.Lowering.Made.Entry`).
-/

namespace JavaSyntax

open Node

namespace Lowering

variable {root raw : RawNode} {source : String} {below : Answers} {h k : Nat}
  (g : Grounded root source h below raw)

include g

/-! ## Headers -/

/-- A type parameter has its name and its bounds right below it. -/
theorem made_typeParameter {p : TypeParameter} (made : Gives below (typeParameter source) raw p) :
    Made root source true (h + 2) raw raw (.typeParameter p) := by
  obtain ⟨name, bounds, found, given, rfl⟩ := typeParameter_form made
  refine g.whole (l := h + 1) rfl rfl rfl (forall_children_typeParameter.mpr ⟨?_, ?_⟩) (by omega)
  · exact g.name (RawNode.mem_nodes_of_childOfTag? found) (by omega)
  · exact fun b hb =>
      (g.typeItems (fun _ => RawNode.mem_nodes_of_childOfTag?) given b hb).mono (Nat.le_succ h)

/-- The list of type parameters makes no node, so that they are made from the node that holds the list.
-/
theorem made_typeParameters {name : String} {types : List TypeParameter}
    (typed : List.Forall₂ (Gives below (typeParameter source))
      (((raw.field? name).map fun found => found.childrenOfTag "type_parameter").getD []) types) :
    ∀ p ∈ types, Made root source false (h + 2) raw raw (.typeParameter p) :=
  of_forall₂ typed fun _ hp _ made =>
    have inner := (encloses_of_mem_childrenOfTag hp).mem_nodes
    g.inside inner (made_typeParameter (g.of_mem inner) made)

/-! ## Members -/

/-- A method is made from its node, and so is a constructor or an element of an annotation type. The
return type is the only part that may be put together, of a type and of brackets behind the
parameters. -/
theorem made_method (narrow : raw.Narrow k) {kind : CallableKind} {m : MethodDeclaration}
    (tag : raw.tag = "method_declaration" ∨ raw.tag = "annotation_type_element_declaration" ∨
      raw.tag = "constructor_declaration")
    (made : Gives below (method source kind) raw m) :
    Made root source true (h + k + 3) raw raw (.method m) := by
  obtain ⟨modifiers, types, declared, name, parameters, throws, body, value, listed, typed, given,
    named, passed, thrown, bodied, valued, -, -, rfl⟩ := run_method_eq_ok.mp made
  refine g.whole (l := h + k + 2) rfl rfl rfl
    (forall_children_method.mpr ⟨?_, ?_, ?_, ?_, ?_, ?_, ?_, ?_⟩) (by omega)
  · exact fun a ha => (made_modifiersOf g listed a ha).mono (by omega)
  · exact fun p hp => (made_typeParameters g typed p hp).mono (by omega)
  · intro t ht
    -- a method without a return type has no brackets either
    obtain ⟨base, rfl, rfl⟩ := Option.map_eq_some_iff.mp ht
    -- the brackets of a return type may stand after the parameters
    obtain ⟨type, found, given⟩ := exists_of_rel_some given
    have inner := RawNode.mem_nodes_of_field? found
    have order (d : RawNode) (hd : raw.field? "dimensions" = some d) : root.Before type d := by
      rcases tag with tag | tag | tag
      -- in all three forms the grammar holds the type under an earlier field than the brackets
      all_goals
        exact .of_tag tag g.here (i := 0) (j := 1) (RawNode.mem_toList found)
          (RawNode.mem_toList hd) (by decide)
    obtain ⟨stop, hs, -, made⟩ := made_bracketed g narrow (.refl _)
      (fun _ => RawNode.mem_nodes_of_field?) order inner given
    exact (made.inside g.here inner hs).mono (by omega)
  · exact g.nameField named (by omega)
  · exact made_parameters g narrow (fun _ => RawNode.mem_nodes_of_field?) passed
  · exact fun t ht =>
      (g.typeItems (fun _ => RawNode.mem_nodes_of_childOfTag?) thrown t ht).mono (by omega)
  · exact fun b hb =>
      (made_blockPart g (fun _ => RawNode.mem_nodes_of_field?) bodied b hb).mono (by omega)
  -- the default value of an element may be an annotation, with pairs in one another
  · refine of_rel valued fun p found e gives => ?_
    have inner := RawNode.mem_nodes_of_field? found
    have := (narrow p inner).2
    exact (g.inside inner (made_annotationValue (g.of_mem inner) gives)).mono (by omega)

/-- A constant is made from its node. Its body, if it has one, is asked for as a class without a name.
-/
theorem made_enumConstant {c : EnumConstant} (made : Gives below (enumConstant source) raw c) :
    Made root source true (h + 2) raw raw (.enumConstant c) := by
  obtain ⟨modifiers, name, values, body, listed, named, given, extended, rfl⟩ :=
    enumConstant_form made
  refine g.whole (l := h + 1) rfl rfl rfl (forall_children_enumConstant.mpr ⟨?_, ?_, ?_, ?_⟩)
    (by omega)
  · exact made_modifiersOf g listed
  · exact g.nameField named (by omega)
  · exact fun e he =>
      (g.items (fun _ => RawNode.mem_nodes_of_field?) given e he).mono (Nat.le_succ h)
  · exact of_rel extended fun p found _ gives =>
      have inner := RawNode.mem_nodes_of_field? found
      (g.inside inner (g.asked.anonymousClass inner gives)).mono (Nat.le_succ h)

/-- The block of an initializer is a node of its own only in the raw tree: the statements are those of
the block, but the typed block covers the keyword as well. -/
theorem made_staticInitializer {b : Block} (made : Gives below staticInitializer raw b) :
    Made root source true (h + 1) raw raw (.block b) := by
  obtain ⟨body, given, rfl⟩ := staticInitializer_form made
  refine g.whole rfl rfl rfl (forall_children_block.mpr fun s hs => ?_) (Nat.lt_succ_self h)
  -- without a block in it an initializer has no statements
  cases body with
  | none => exact absurd hs List.not_mem_nil
  | some body =>
    obtain ⟨p, found, gives⟩ := exists_of_rel_some given
    have inner := RawNode.mem_nodes_of_childOfTag? found
    exact g.inside inner (g.asked.statements inner gives s hs)

/-- Whatever form a member has, it is made from the node in the body, if not exactly: of several
variables that one declaration declares each ends with its own declarator. -/
theorem made_memberForm (narrow : raw.Narrow k) {ms : List Member}
    (form : MemberForm source below raw ms) :
    ∀ m ∈ ms, Made root source false (h + k + 3) raw raw m.node := by
  -- a member that covers its whole node
  have own {n : Node} (made : Made root source true (h + k + 3) raw raw n) :
      Made root source false (h + k + 3) raw raw n := g.inside raw.mem_nodes_self made
  cases form with
  | declaration tag given =>
    -- each variable reaches from the declaration to its declarator, which lies inside
    rw [List.forall_mem_map]
    intro v hv
    have tag : raw.tag = "field_declaration" ∨ raw.tag = "constant_declaration" ∨
        raw.tag = "local_variable_declaration" := by
      rcases tag with tag | tag
      · exact .inl tag
      · exact .inr (.inl tag)
    obtain ⟨p, hp, made⟩ := made_variableDeclarations g narrow tag given v hv
    exact (made.inside g.here raw.mem_nodes_self (raw.fields_subset_nodes _ hp)).mono (by omega)
  | method tag given =>
    rw [List.forall_mem_singleton]
    exact own (made_method g narrow tag given)
  | enumConstant given =>
    rw [List.forall_mem_singleton]
    exact own ((made_enumConstant g given).mono (by omega))
  | initializer given =>
    rw [List.forall_mem_singleton]
    exact own (g.whole rfl rfl rfl
      (forall_children_block.mpr (g.asked.statements raw.mem_nodes_self given)) (by omega))
  | staticInitializer given =>
    rw [List.forall_mem_singleton]
    exact own ((made_staticInitializer g given).mono (by omega))
  | type given =>
    rw [List.forall_mem_singleton]
    exact (g.asked.typeDeclaration raw.mem_nodes_self given).mono (by omega)

/-- The members of a body are made from the body, through the sections of an enum as well. A semicolon
among them makes a member without children. -/
theorem made_members (narrow : raw.Narrow k) {ms : List Member}
    (made : Gives below (members source) raw ms) :
    ∀ m ∈ ms, Made root source false (h + k + 3) raw raw m.node := by
  -- a member is made from its node or is the semicolon itself, and both lie inside the body
  refine forall_of_members made (fun q inside ms form m hm => ?_) (fun q inside => ?_)
  · have inner := inside.mem_nodes
    exact g.inside inner (made_memberForm (g.of_mem inner) (narrow.of_mem inner) form m hm)
  · have inner := inside.mem_nodes
    exact g.inside inner ((g.of_mem inner).whole (l := 0) rfl rfl rfl forall_children_empty (by omega))

/-! ## Types -/

/-- A class without a header consists of its members. -/
theorem made_anonymousClassBody (narrow : raw.Narrow k) {d : TypeDeclaration}
    (made : (anonymousClassBody source raw).run below = .ok d) :
    Made root source true (h + (k + 4)) raw raw (.typeDeclaration d) := by
  obtain ⟨ms, given, rfl⟩ := anonymousClassBody_form made
  exact g.whole (l := h + k + 3) rfl rfl rfl
    (forall_children_anonymousClass.mpr (made_members g narrow given)) (by omega)

/-- A type with a header is made from its node. Superclass and super interfaces stand in clauses that
make no node of their own. -/
theorem made_typeDeclarationBody (narrow : raw.Narrow k) {d : TypeDeclaration}
    (made : (typeDeclarationBody source raw).run below = .ok d) :
    Made root source true (h + (k + 4)) raw raw (.typeDeclaration d) := by
  obtain ⟨kind, modifiers, name, types, superclass, interfaces, held, known, listed, named, typed,
    extended, implemented, given, -, rfl⟩ := typeDeclarationBody_form made
  refine g.whole (l := h + k + 3) rfl rfl rfl
    (forall_children_typeDeclaration.mpr ⟨?_, ?_, ?_, ?_, ?_, ?_⟩) (by omega)
  · exact fun m hm => (made_modifiersOf g listed m hm).mono (by omega)
  · rintro _ ⟨⟩
    exact g.nameField named (by omega)
  · exact fun p hp => (made_typeParameters g typed p hp).mono (by omega)
  · refine fun t ht => (g.typePart (fun p found => ?_) extended t ht).mono (by omega)
    obtain ⟨clause, hc, hp⟩ := Option.bind_eq_some_iff.mp found
    exact RawNode.mem_nodes_trans (RawNode.mem_nodes_of_field? hc)
      (clause.namedChildren_subset_nodes (List.mem_of_head? hp))
  · refine fun t ht => (g.typeItems (fun l found => ?_) implemented t ht).mono (by omega)
    exact (encloses_of_superInterfaces found).mem_nodes
  · intro m hm
    -- a type without a body, such as a marker, has no members
    cases held with
    | none => exact absurd hm List.not_mem_nil
    | some ms =>
      obtain ⟨body, found, gives⟩ := exists_of_rel_some given
      have inner := RawNode.mem_nodes_of_field? found
      exact g.inside inner (made_members (g.of_mem inner) (narrow.of_mem inner) gives m hm)

end Lowering

end JavaSyntax
