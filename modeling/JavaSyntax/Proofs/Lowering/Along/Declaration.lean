import JavaSyntax.Proofs.Lowering.Along.Type
import JavaSyntax.Proofs.Lowering.Forms.Declaration

/-!
# Types and their members along the source

* `Orderly.members`: the members of a body stand in the order of its entries;
* `Orderly.typeDeclarationBody`: the header of a type comes before its members.

The slots of a declaration come in the order of its parts in the source, with gaps where a part may be
absent; so a row with a group for each slot says all that is needed. The body of an enum is the one place
where members of one list come from two levels of the raw tree. The part with the members after the
constants lies between its neighbours as a whole, and what stands in it stands there too, which is why
the induction is a mutual one on the body and on such parts.
-/

namespace JavaSyntax

namespace Lowering

namespace Orderly

variable {root raw : RawNode} {source : String} {below : Answers} (o : Orderly root below)

include o

/-! ## Members -/

/-- A type parameter: its name, and the bounds behind it. -/
theorem typeParameter :
    Keeps root (Gives below (typeParameter source)) fun p => [.typeParameter p] := by
  intro raw here p made
  obtain ⟨name, bounds, named, given, rfl⟩ := typeParameter_form made
  have held := RawNode.inner_of_childOfTag? here named
  exact o.whole here rfl (.flatten (o.sequenced raw here).bounded
    (.cons (o.name source named held) (.cons (o.itemsChild here o.type given) .nil))) rfl

/-- A method has its eight slots in the order of the source, if not all of them. In that order the
brackets behind the parameters do not matter, because a type starts where it starts without them. -/
theorem method (here : raw ∈ root.nodes) {kind : CallableKind} {m : MethodDeclaration}
    (tag : raw.tag = "method_declaration" ∨ raw.tag = "annotation_type_element_declaration" ∨
      raw.tag = "constructor_declaration")
    (made : Gives below (method source kind) raw m) : Along [raw] [.method m] := by
  obtain ⟨modifiers, types, declared, name, parameters, throws, body, value, listed, typed, given,
    named, passed, thrown, bodied, valued, -, -, rfl⟩ := run_method_eq_ok.mp made
  have order : RawNode.InTurn [(raw.childOfTag? "modifiers").toList,
      (raw.field? "type_parameters").toList, (raw.field? "type").toList,
      (raw.field? "name").toList, (raw.field? "parameters").toList,
      (raw.childOfTag? "throws").toList, (raw.field? "body").toList,
      (raw.field? "value").toList] := by
    -- the three sorts of callables have one row
    rcases tag with tag | tag | tag
    all_goals exact (o.sequenced raw here).row tag List.mem_cons_self
  exact o.whole here rfl (.flatten order (.cons (o.modifiers.child here listed)
    (.cons (o.membersField here o.typeParameter typed) (.cons (o.bracketedField here _ given)
      (.cons (o.nameField here source named) (.cons (o.itemsField here o.parameter passed)
        (.cons (o.itemsChild here o.type thrown) (.cons (o.block.field here bodied)
          (.cons (o.annotationValue.field here valued) .nil))))))))) rfl

/-- A constant: modifiers, name, arguments and body. -/
theorem enumConstant :
    Keeps root (Gives below (enumConstant source)) fun c => [.enumConstant c] := by
  intro raw here c made
  obtain ⟨modifiers, name, values, body, listed, named, given, extended, rfl⟩ :=
    enumConstant_form made
  have order := (o.sequenced raw here).declared.pick [0, 4, 5, 7] (by decide)
  exact o.whole here rfl (.flatten order (.cons (o.modifiers.child here listed)
    (.cons (o.nameField here source named) (.cons (o.itemsField here o.expression given)
      (.cons (o.anonymousClass.field here extended) .nil))))) rfl

/-- The statements of a static initializer stand along the block in it. -/
theorem staticInitializer : Keeps root (Gives below staticInitializer) fun b => [.block b] := by
  intro raw here b made
  obtain ⟨body, given, rfl⟩ := staticInitializer_form made
  have statements := o.statements.listPart (fun _ found =>
    RawNode.inner_of_childOfTag? here found) given
  exact o.whole here rfl statements (List.append_nil _).symm

/-- A member in a body, by its form. -/
theorem memberForm : Keeps root (MemberForm source below) fun ms => ms.map Member.node := by
  intro raw here ms form
  cases form with
  -- the variables of one declaration all start where it starts
  | declaration tag given =>
    change Along [raw] (List.map Member.node (List.map Member.variableDeclaration _))
    rw [List.map_map]
    exact o.variableDeclarations here (tag.imp_right .inl) given
  | method tag given => exact o.method here tag given
  | enumConstant given => exact o.enumConstant raw here _ given
  | initializer given =>
    exact o.whole here rfl (o.statements raw here _ given) (List.append_nil _).symm
  | staticInitializer given => exact o.staticInitializer raw here _ given
  | type given => exact o.typeDeclaration raw here _ given

/-! ## Bodies -/

mutual

/-- What stands among the given parts of a body is made in their order. -/
theorem bodyEntriesIn {groups : List (List Member)} {separated : Bool} :
    (parts : List RawNode) → (∀ p ∈ parts, p ∈ root.nodes) →
    (parts.Pairwise fun p q => p.label.stopByte ≤ q.label.startByte) →
    List.Forall₂ (Gives below (bodyEntry source)) (Lowering.bodyEntriesIn separated parts) groups →
      Along parts (groups.flatten.map Member.node)
  | [], _, _, given => by
    rw [Lowering.bodyEntriesIn, List.forall₂_nil_left_iff] at given
    exact given ▸ .nil
  | part :: rest, all, order, given => by
    rw [List.forall_mem_cons] at all
    rw [List.pairwise_cons] at order
    have later {separated : Bool} {groups : List (List Member)}
        (given : List.Forall₂ (Gives below (bodyEntry source))
          (Lowering.bodyEntriesIn separated rest) groups) :
        Along rest (groups.flatten.map Member.node) := bodyEntriesIn rest all.2 order.2 given
    -- what the part makes, and then what the rest makes
    have both {ms ms' : List Member} (first : Along [part] (ms.map Member.node))
        (second : Along rest (ms'.map Member.node)) :
        Along (part :: rest) ((ms ++ ms').map Member.node) := by
      rw [List.map_append]
      refine first.append second fun p hp q hq => ?_
      rw [List.mem_singleton.mp hp]
      exact order.1 q hq
    unfold Lowering.bodyEntriesIn at given
    split at given
    · exact (later given).mono (List.subset_cons_self _ _)
    · split at given
      · obtain ⟨first, others, rfl, made, given⟩ := exists_append_of_forall₂ given
        rw [List.flatten_append]
        refine both ?_ (later given)
        split at made
        -- members after the constants of an enum, which stand along the part that holds them
        · exact nestedEntries part all.1 made
        · obtain ⟨ms, _, sole, none, rfl⟩ := List.forall₂_cons_left_iff.mp made
          rw [List.forall₂_nil_left_iff.mp none, List.flatten_singleton]
          exact o.memberForm part all.1 ms (member_form sole)
      · split at given
        · split at given
          · exact (later given).mono (List.subset_cons_self _ _)
          · obtain ⟨ms, others, made, following, rfl⟩ := List.forall₂_cons_left_iff.mp given
            obtain rfl := run_pure_eq_ok.mp made
            -- a semicolon makes a member of its own, unless it is the separator
            have semicolon : Along [part] ([Member.empty part.span].map Member.node) :=
              o.leaf all.1 rfl rfl
            exact both semicolon (later following)
        · exact (later given).mono (List.subset_cons_self _ _)

/-- What stands in a part of a body stands along that part. -/
theorem nestedEntries {groups : List (List Member)} :
    (raw : RawNode) → raw ∈ root.nodes →
    List.Forall₂ (Gives below (bodyEntry source)) (Lowering.nestedEntries raw) groups →
      Along [raw] (groups.flatten.map Member.node)
  | .node label parts, here, given => by
    have inner : ∀ p ∈ parts, p ∈ (RawNode.node label parts).nodes := fun p hp =>
      (RawNode.node label parts).parts_subset_nodes hp
    exact o.inside here inner (bodyEntriesIn parts
      (fun p hp => RawNode.mem_nodes_trans here (inner p hp)) (o.sequenced _ here).apart given)

end

/-- The members of a body stand along it, because its entries do. -/
theorem members : Keeps root (Gives below (members source)) fun ms => ms.map Member.node := by
  intro raw here ms made
  obtain ⟨groups, given, rfl⟩ := members_form made
  have inner : ∀ p ∈ raw.parts, p ∈ raw.nodes := fun p hp => raw.parts_subset_nodes hp
  exact o.inside here inner (o.bodyEntriesIn raw.parts
    (fun p hp => RawNode.mem_nodes_trans here (inner p hp)) (o.sequenced raw here).apart given)

/-! ## Types -/

/-- A class without a header starts where its body does. -/
theorem anonymousClassBody :
    Keeps root (fun p d => (anonymousClassBody source p).run below = .ok d)
      fun d => [.typeDeclaration d] := by
  intro raw here d made
  obtain ⟨ms, given, rfl⟩ := anonymousClassBody_form made
  exact o.whole here rfl (o.members raw here ms given) (List.append_nil _).symm

/-- A type with a header. The clauses for what is extended and implemented make no node, so that the
types in them stand along the clauses. -/
theorem typeDeclarationBody :
    Keeps root (fun p d => (typeDeclarationBody source p).run below = .ok d)
      fun d => [.typeDeclaration d] := by
  intro raw here d made
  obtain ⟨kind, modifiers, name, types, superclass, interfaces, held, known, listed, named, typed,
    extended, implemented, given, -, rfl⟩ := typeDeclarationBody_form made
  have field {name : String} (p : RawNode) (found : raw.field? name = some p) : p ∈ root.nodes :=
    RawNode.inner_of_field? here found
  have order : RawNode.InTurn [(raw.childOfTag? "modifiers").toList, (raw.field? "name").toList,
      (raw.field? "type_parameters").toList, (raw.field? "superclass").toList,
      ((raw.field? "interfaces").or (raw.childOfTag? "extends_interfaces")).toList,
      (raw.field? "body").toList] := by
    -- four tags are those of types, and all have the same row
    unfold typeKind? at known
    split at known
    case h_5 => exact absurd known nofun
    case h_1 tag | h_2 tag | h_3 tag | h_4 tag =>
      exact (o.sequenced raw here).row tag List.mem_cons_self
  -- an interface has its super interfaces in a clause without a field
  have clauses (p : RawNode)
      (found : (raw.field? "interfaces").or (raw.childOfTag? "extends_interfaces") = some p) :
      p ∈ root.nodes := by
    rcases Option.or_eq_some_iff.mp found with found | ⟨-, found⟩
    · exact field p found
    · exact RawNode.inner_of_childOfTag? here found
  have extension := o.inner o.type field
    (fun p _ found => p.namedChildren_subset_nodes (List.mem_of_head? found)) extended
  have implementation := o.outward clauses (fun _ _ => RawNode.mem_nodes_of_childOfTag?)
    (o.items here o.type (fun _ found => (encloses_of_superInterfaces found).mem_nodes) implemented)
  exact o.whole here rfl (.flatten order (.cons (o.modifiers.child here listed)
    (.cons (o.nameField here source named) (.cons (o.membersField here o.typeParameter typed)
      (.cons extension (.cons implementation (.cons (o.members.listPart field given) .nil))))))) rfl

end Orderly

end Lowering

end JavaSyntax
