import JavaSyntax.Proofs.Lowering.Forms.Expression
import JavaSyntax.Proofs.Lowering.Places

/-!
# Forms of types and their members

* `MemberForm`: what a declaration in a type body is lowered to;
* `run_method_eq_ok`, `typeDeclarationBody_form`: the declarations with many parts.

A body is read through its entries (`bodyEntries`), so that members of an enum after its constants and
semicolons are already in place here. Types and methods have parts that depend on one another: only a
class may extend a superclass, and what a method lacks depends on its kind. Such conditions stand in the
forms as well, because a build that fails them has no form.
-/

namespace JavaSyntax

namespace Lowering

variable {source : String} {below : Answers} {raw : RawNode}

/-! ## Blocks -/

/-- A plain block has the extent of its node and the statements between the braces. -/
theorem block_form {b : Block} (h : (block raw).run below = .ok b) :
    ∃ body, Gives below statements raw body ∧ b = ⟨.plain, raw.span, body⟩ := by
  unfold block at h
  simp only [run_bind_eq_ok, run_pure_eq_ok] at h
  obtain ⟨body, given, rfl⟩ := h
  exact ⟨body, given, rfl⟩

/-! ## Types and their members -/

/-- A type parameter is found by the tag of its name, as the grammar has no field for it. -/
theorem typeParameter_form {p : TypeParameter} (h : (typeParameter source raw).run below = .ok p) :
    ∃ name bounds, raw.childOfTag? "type_identifier" = some name ∧
      List.Forall₂ (Gives below typeExpression) (items (raw.childOfTag? "type_bound")) bounds ∧
      p = ⟨raw.span, identifier source name, bounds⟩ := by
  unfold typeParameter at h
  simp only [run_bind_eq_ok, run_listed_eq_ok, run_checked_eq_ok, Checked.typeParameter_eq_ok,
    Option.map_eq_some_iff] at h
  obtain ⟨bounds, given, _, ⟨name, found, rfl⟩, rfl⟩ := h
  exact ⟨name, bounds, found, given, rfl⟩

/-- The type parameters of a declaration; without a list there are none. -/
theorem run_typeParameters_eq_ok {list : Option RawNode} {types : List TypeParameter} :
    (typeParameters source list).run below = .ok types ↔
      List.Forall₂ (Gives below (typeParameter source))
        ((list.map fun found => found.childrenOfTag "type_parameter").getD []) types := by
  cases list with
  | none =>
    rw [typeParameters, run_pure_eq_ok, Option.map_none, Option.getD_none,
      List.forall₂_nil_left_iff, eq_comm]
  | some found => exact run_each_eq_ok

/-- A method, a constructor or an element of an annotation type, in both directions. The last
conditions but one are those of the constructor `Checked.method`; brackets behind the parameters wrap
the return type. -/
theorem run_method_eq_ok {kind : CallableKind} {m : MethodDeclaration} :
    (method source kind raw).run below = .ok m ↔
      ∃ modifiers types declared name parameters throws body value,
        Option.Rel (ModifiersForm source below) (raw.childOfTag? "modifiers") modifiers ∧
        List.Forall₂ (Gives below (typeParameter source))
          (((raw.field? "type_parameters").map fun found =>
            found.childrenOfTag "type_parameter").getD []) types ∧
        Option.Rel (Gives below typeExpression) (raw.field? "type") declared ∧
        raw.field? "name" = some name ∧
        List.Forall₂ (Gives below (parameter source)) (items (raw.field? "parameters")) parameters ∧
        List.Forall₂ (Gives below typeExpression) (items (raw.childOfTag? "throws")) throws ∧
        Option.Rel (Gives below block) (raw.field? "body") body ∧
        Option.Rel (Gives below (annotationValue source)) (raw.field? "value") value ∧
        -- the two directions differ only in the order in which the parts are named
        (kind = .constructor → declared = none ∧ value = none ∧ body.isSome) ∧
        (kind = .method → declared.isSome) ∧
        m = ⟨kind, raw.span, modifiers, types,
          declared.map fun base => (brackets (raw.field? "dimensions")).foldl arrayOf base,
          identifier source name, parameters, throws, body, value⟩ := by
  unfold method
  simp only [run_bind_eq_ok, run_modifiersOf_eq_ok, run_typeParameters_eq_ok, run_optional_eq_ok,
    run_listed_eq_ok, run_checked_eq_ok, withDimensions_eq_map, JavaSyntax.Lowering.parameters,
    Checked.method_eq_ok, Kind.callable.injEq, Option.map_eq_some_iff, Option.map_eq_none_iff,
    Option.isSome_map]
  constructor
  · rintro ⟨modifiers, listed, types, typed, declared, given, parameters, passed, throws, thrown,
      body, bodied, value, valued, _, rfl, built, returning, _, ⟨name, named, rfl⟩, rfl⟩
    exact ⟨modifiers, types, declared, name, parameters, throws, body, value, listed, typed, given,
      named, passed, thrown, bodied, valued, built, returning, rfl⟩
  · rintro ⟨modifiers, types, declared, name, parameters, throws, body, value, listed, typed, given,
      named, passed, thrown, bodied, valued, built, returning, rfl⟩
    exact ⟨modifiers, listed, types, typed, declared, given, parameters, passed, throws, thrown,
      body, bodied, value, valued, _, rfl, built, returning, _, ⟨name, named, rfl⟩, rfl⟩

/-- A constant of an enum. Its arguments are held under a field, its body makes a class without a name.
-/
theorem enumConstant_form {c : EnumConstant} (h : (enumConstant source raw).run below = .ok c) :
    ∃ modifiers name values body,
      Option.Rel (ModifiersForm source below) (raw.childOfTag? "modifiers") modifiers ∧
      raw.field? "name" = some name ∧
      List.Forall₂ (Gives below expression) (items (raw.field? "arguments")) values ∧
      Option.Rel (Gives below anonymousClass) (raw.field? "body") body ∧
      c = ⟨raw.span, modifiers, identifier source name, values, body⟩ := by
  unfold enumConstant at h
  simp only [run_bind_eq_ok, run_optional_eq_ok, arguments, run_listed_eq_ok, run_checked_eq_ok,
    Checked.enumConstant_eq_ok, Option.map_eq_some_iff] at h
  obtain ⟨modifiers, listed, values, given, body, extended, _, ⟨name, named, rfl⟩, rfl⟩ := h
  exact ⟨modifiers, name, values, body, run_modifiersOf_eq_ok.mp listed, named, given, extended,
    rfl⟩

/-- A static initializer covers the keyword and the block; a missing block makes no statements. -/
theorem staticInitializer_form {b : Block} (h : (staticInitializer raw).run below = .ok b) :
    ∃ body, Option.Rel (Gives below statements) (raw.childOfTag? "block") body ∧
      b = ⟨.staticInitializer, raw.span, body.getD []⟩ := by
  unfold staticInitializer at h
  simp only [run_bind_eq_ok, run_optional_eq_ok, run_pure_eq_ok] at h
  obtain ⟨body, given, rfl⟩ := h
  exact ⟨body, given, rfl⟩

variable (source below raw) in
/-- What a declaration in a type body is lowered to. -/
inductive MemberForm : List Member → Prop where
  /-- Fields, and the constants of an interface. One declaration makes as many members as it has
  declarators. -/
  | declaration {vs} (tag : raw.tag = "field_declaration" ∨ raw.tag = "constant_declaration")
      (given : Gives below (variableDeclarations source) raw vs) :
      MemberForm (vs.map .variableDeclaration)
  | method {kind m} (tag : raw.tag = "method_declaration" ∨
        raw.tag = "annotation_type_element_declaration" ∨ raw.tag = "constructor_declaration")
      (given : Gives below (method source kind) raw m) : MemberForm [.method m]
  | enumConstant {c} (given : Gives below (enumConstant source) raw c) :
      MemberForm [.enumConstant c]
  /-- A block in a body, which covers its node. -/
  | initializer {body} (given : Gives below statements raw body) :
      MemberForm [.block ⟨.instanceInitializer, raw.span, body⟩]
  | staticInitializer {b} (given : Gives below staticInitializer raw b) : MemberForm [.block b]
  /-- A type declared in a type. -/
  | type {declaration} (given : Gives below typeDeclaration raw declaration) :
      MemberForm [.typeDeclaration declaration]

/-- The tag decides what a declaration in a body is. -/
theorem member_form {ms : List Member} (h : (member source raw).run below = .ok ms) :
    MemberForm source below raw ms := by
  unfold member at h
  split at h
  -- the tag of a type, or of nothing that stands in a body
  case h_9 =>
    split at h
    · simp only [run_bind_eq_ok, run_pure_eq_ok] at h
      obtain ⟨declaration, given, rfl⟩ := h
      exact .type given
    · exact absurd h run_unsupported_eq_ok.mp
  all_goals
    simp only [run_bind_eq_ok, run_pure_eq_ok] at h
    obtain ⟨made, given, rfl⟩ := h
  case h_1 tag => exact .declaration (.inl tag) given
  case h_2 tag => exact .declaration (.inr tag) given
  case h_3 tag => exact .method (.inl tag) given
  case h_4 tag => exact .method (.inr (.inl tag)) given
  case h_5 tag => exact .method (.inr (.inr tag)) given
  case h_6 => exact .enumConstant given
  case h_7 => exact .initializer given
  case h_8 => exact .staticInitializer given

/-- The members of a body are what its entries make, one after the other. -/
theorem members_form {ms : List Member} (h : (members source raw).run below = .ok ms) :
    ∃ groups, List.Forall₂ (Gives below (bodyEntry source)) (bodyEntries raw) groups ∧
      ms = groups.flatten := by
  unfold members at h
  simp only [run_gather_eq_ok] at h
  obtain ⟨groups, given, rfl⟩ := h
  exact ⟨groups, given, rfl⟩

/-- What holds of all that the declarations in a body make, and of semicolons, holds of its
members. -/
theorem forall_of_members {T : Member → Prop} {ms : List Member}
    (h : (members source raw).run below = .ok ms)
    (declared : ∀ q, raw.Encloses q → ∀ ms, MemberForm source below q ms → ∀ m ∈ ms, T m)
    (empty : ∀ q, raw.Encloses q → T (.empty q.span)) : ∀ m ∈ ms, T m := by
  obtain ⟨groups, given, rfl⟩ := members_form h
  intro m hm
  obtain ⟨ms, hms, hm⟩ := List.mem_flatten.mp hm
  obtain ⟨entry, hentry, made⟩ := exists_of_forall₂ given hms
  -- each entry is a declaration or a semicolon somewhere inside the body
  obtain ⟨q, inside, rfl | rfl⟩ := exists_node_of_mem_bodyEntries hentry
  · exact declared q inside ms (member_form made) m hm
  · obtain rfl := run_pure_eq_ok.mp made
    rw [List.mem_singleton] at hm
    exact hm ▸ empty q inside

/-- A class without a header has the extent of its braces. -/
theorem anonymousClassBody_form {d : TypeDeclaration}
    (h : (anonymousClassBody source raw).run below = .ok d) :
    ∃ ms, Gives below (members source) raw ms ∧ d = Checked.anonymousClass raw.span ms := by
  unfold anonymousClassBody at h
  simp only [run_bind_eq_ok, run_pure_eq_ok] at h
  obtain ⟨ms, given, rfl⟩ := h
  exact ⟨ms, given, rfl⟩

/-- A type with a header. The superclass is the one child of its clause, the super interfaces are
found by the tag of theirs, and a declaration without a body has no members. -/
theorem typeDeclarationBody_form {d : TypeDeclaration}
    (h : (typeDeclarationBody source raw).run below = .ok d) :
    ∃ kind modifiers name types superclass interfaces held,
      typeKind? raw.tag = some kind ∧
      Option.Rel (ModifiersForm source below) (raw.childOfTag? "modifiers") modifiers ∧
      raw.field? "name" = some name ∧
      List.Forall₂ (Gives below (typeParameter source))
        (((raw.field? "type_parameters").map fun found =>
          found.childrenOfTag "type_parameter").getD []) types ∧
      Option.Rel (Gives below typeExpression)
        ((raw.field? "superclass").bind fun clause => clause.namedChildren.head?) superclass ∧
      List.Forall₂ (Gives below typeExpression) (items (superInterfaces raw)) interfaces ∧
      Option.Rel (Gives below (members source)) (raw.field? "body") held ∧
      (kind = .classType ∨ superclass = none) ∧
      d = ⟨kind, raw.span, modifiers, some (identifier source name), types, superclass, interfaces,
        held.getD []⟩ := by
  unfold typeDeclarationBody at h
  split at h
  case h_1 => exact absurd h run_unsupported_eq_ok.mp
  case h_2 kind known =>
    split at h
    case h_1 => exact absurd h run_unsupported_eq_ok.mp
    case h_2 =>
      simp only [run_bind_eq_ok, run_optional_eq_ok, run_listed_eq_ok, run_checked_eq_ok,
        Checked.typeDeclaration_eq_ok, Kind.typeDeclaration.injEq, Option.map_eq_some_iff] at h
      obtain ⟨modifiers, listed, types, typed, superclass, extended, interfaces, implemented, held,
        given, _, rfl, classOnly, _, ⟨name, named, rfl⟩, rfl⟩ := h
      exact ⟨kind, modifiers, name, types, superclass, interfaces, held, known,
        run_modifiersOf_eq_ok.mp listed, named, run_typeParameters_eq_ok.mp typed, extended,
        implemented, given, classOnly, rfl⟩

end Lowering

end JavaSyntax
