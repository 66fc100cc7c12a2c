import JavaSyntax.Proofs.Tree.Children
import JavaSyntax.Proofs.Tree.Traversal

/-!
# Roles — what may stand in a slot of a node

The constructors of nodes take any expression for a type and any block for a member. What may stand
where is a table of roles: most slots are ordinary, and some ask for a type, for a class without a
name and so on. A tree suits a role if its root is admitted there and what each of its slots holds
suits the role of that slot.

* `Shape.role`: the role of each slot;
* `Node.Suits`: whether a node may stand in a role, with all that is below it;
* `Node.Stands`: where a node stands in a tree;
* `Node.InRole`: what the roles say about a node from where it stands;
* `Node.Suits.inRole`: in a tree that suits an ordinary role every node is in its role.

A role does not depend on what the tree was made from, so the table stands here and not with the
lowering. Most forms have ordinary slots only, and one lemma covers them all (`Node.Suits.plain`); the
forms with a slot of another role have a lemma each. The roles are then read in the other direction:
what is known of a node is what its place admits.
-/

namespace JavaSyntax

/-! ## Slots and their roles -/

/-- Whether nodes of the kind stand where a type is written. A class type is a name. -/
def Kind.amongTypes : Kind → Bool
  | identifier | memberSelect => true
  | kind => kind.isType

/-- What a slot asks of the node that it holds. -/
inductive Role where
  | ordinary
  /-- A member of a type. -/
  | member
  /-- The class of an instance creation or enum constant. -/
  | classBody
  /-- The parameter of a `catch`. -/
  | caught
  /-- The type of a variable. -/
  | declaredType
  /-- Any other type. -/
  | type
  /-- What a call selects. -/
  | callee
  /-- What a `for` starts with. -/
  | initializer
  deriving DecidableEq, Repr

namespace Shape

/-- The slots that hold types. -/
def typeSlots : Shape → List String
  | typeDeclaration => ["superclass", "super_interfaces"]
  | method => ["return_type", "throws_clauses"]
  | variableDeclaration => ["var_type"]
  | typeParameter => ["bounds"]
  | methodInvocation => ["type_arguments"]
  | newClass => ["type_arguments", "identifier"]
  | newArray => ["element_type"]
  | typeCast => ["cast_type"]
  | instanceOf => ["instance_type"]
  | arrayType => ["element_type"]
  | parameterizedType => ["raw_type", "type_arguments"]
  | wildcard => ["bound"]
  | unionType => ["alternatives"]
  | _ => []

/-- The role of a slot, by the shape of the node and the name of the slot. -/
def role : Shape → String → Role
  | typeDeclaration, "members" => .member
  | newClass, "class_body" | enumConstant, "class_body" => .classBody
  | catchClause, "parameter" => .caught
  | variableDeclaration, "var_type" => .declaredType
  | methodInvocation, "method_select" => .callee
  | forStatement, "initializer" => .initializer
  | shape, slot => if slot ∈ shape.typeSlots then .type else .ordinary

end Shape

/-- Whether a node may stand where nothing in particular is asked for. -/
def Node.Ordinary : Node → Prop
  | .block b => b.kind = .plain
  | .typeDeclaration d => d.name.isSome
  | .variableDeclaration v => v.type.node.kind ≠ .unionType
  | .expression e => e.kind ≠ .unionType
  | .statement s => s.node = .statement s
  | _ => True

/-- Whether a node may stand in a role, whatever is below it. -/
def Role.Admits : Role → Node → Prop
  | ordinary, n => n.Ordinary
  | member, .block b => b.kind ≠ .plain
  | member, n => n.Ordinary
  | classBody, .typeDeclaration d => d.name = none
  | classBody, _ => False
  | caught, .variableDeclaration _ => True
  | caught, _ => False
  | declaredType, n => n.kind.amongTypes
  | type, n => n.kind.amongTypes ∧ n.kind ≠ .unionType
  | callee, n => n.kind = .identifier ∨ n.kind = .memberSelect
  | initializer, n => n.Ordinary ∧ (n.kind = .variableDeclaration ∨ n.kind = .expressionStatement)

/-! ### Which places have a role of their own -/

/-- The role of a place in a tree: that of the slot, if it is not the place of the root. -/
def roleAt : Option (Shape × String) → Role
  | none => .ordinary
  | some (shape, slot) => shape.role slot

variable {p : Option (Shape × String)}

/-- Members stand in one slot only. -/
theorem roleAt_eq_member : roleAt p = .member ↔ p = some (.typeDeclaration, "members") := by
  unfold roleAt Shape.role
  grind

/-- Classes without a name stand in two slots. -/
theorem roleAt_eq_classBody : roleAt p = .classBody ↔
    p = some (.newClass, "class_body") ∨ p = some (.enumConstant, "class_body") := by
  unfold roleAt Shape.role
  grind

/-- The parameter of a `catch` has a slot of its own. -/
theorem roleAt_eq_caught : roleAt p = .caught ↔ p = some (.catchClause, "parameter") := by
  unfold roleAt Shape.role
  grind

/-- The type of a variable has a slot of its own, since it alone can be a union. -/
theorem roleAt_eq_declaredType :
    roleAt p = .declaredType ↔ p = some (.variableDeclaration, "var_type") := by
  unfold roleAt Shape.role
  grind

/-- A slot for types asks for a type, if not for the type of a variable. -/
theorem Shape.role_of_mem_typeSlots {shape : Shape} {slot : String} (h : slot ∈ shape.typeSlots) :
    shape.role slot = .type ∨ shape.role slot = .declaredType := by
  cases shape <;> simp [typeSlots] at h <;> rcases h with rfl | rfl <;> simp [role, typeSlots]

/-! ### What the roles admit -/

/-- No statement is a type. -/
theorem Statement.not_amongTypes_kind (s : Statement) : ¬ s.kind.amongTypes := by
  cases s <;> exact Bool.false_ne_true

/-- No statement is a union. -/
theorem Statement.kind_ne_unionType (s : Statement) : s.kind ≠ .unionType := by
  cases s <;> exact Kind.noConfusion

namespace Role

namespace Admits

variable {role : Role} {n : Node}

/-- A type that may stand in any place for a type may stand where nothing in particular is asked
for. -/
theorem ordinary_of_type (h : Role.type.Admits n) : Role.ordinary.Admits n := by
  obtain ⟨type, union⟩ := h
  cases n with
  | expression e => exact union
  | statement s => exact absurd type s.not_amongTypes_kind
  | block | typeDeclaration | variableDeclaration => exact absurd type Bool.false_ne_true
  | _ => trivial

/-- No role admits a block as a statement that is something else than a block. -/
theorem node_statement {s : Statement} (h : role.Admits (.statement s)) :
    s.node = .statement s := by
  cases role with
  | ordinary | member => exact h
  | classBody | caught => exact h.elim
  | declaredType => exact absurd h s.not_amongTypes_kind
  | type => exact absurd h.1 s.not_amongTypes_kind
  | callee => cases s <;> rcases h with h | h <;> cases h
  | initializer => exact h.1

/-- A block is an initializer exactly in the role of a member. The other roles admit no block, or a
plain one. -/
theorem block_plain {b : Block} (h : role.Admits (.block b)) :
    b.kind = .plain ↔ role ≠ .member := by
  cases role with
  | ordinary => exact iff_of_true h Role.noConfusion
  | member => exact iff_of_false h fun other => other rfl
  | classBody | caught => exact h.elim
  | declaredType => cases h
  | type => cases h.1
  | callee => rcases h with h | h <;> cases h
  | initializer => rcases h.2 with h | h <;> cases h

/-- A class has no name exactly in the role of the body of a class. -/
theorem isAnonymous {d : TypeDeclaration} (h : role.Admits (.typeDeclaration d)) :
    d.isAnonymous ↔ role = .classBody := by
  have named (name : d.name.isSome) : ¬ d.isAnonymous := by
    rw [TypeDeclaration.isAnonymous, Option.isNone_iff_eq_none]
    exact Option.isSome_iff_ne_none.mp name
  cases role with
  | ordinary => exact iff_of_false (named h) Role.noConfusion
  | member => exact iff_of_false (named h) Role.noConfusion
  | classBody => exact iff_of_true (Option.isNone_iff_eq_none.mpr h) rfl
  | caught => exact h.elim
  | declaredType => cases h
  | type => cases h.1
  | callee => rcases h with h | h <;> cases h
  | initializer => rcases h.2 with h | h <;> cases h

/-- A union is admitted as the type of a variable alone. -/
theorem declaredType_of_union (h : role.Admits n) (union : n.kind = .unionType) :
    role = .declaredType := by
  -- a union is no ordinary node, whatever sum it is seen as a member of
  have ordinary : ¬ n.Ordinary := by
    cases n with
    | expression e => exact fun other => other union
    | statement s => exact absurd union s.kind_ne_unionType
    | _ => cases union
  cases role with
  | ordinary => exact absurd h ordinary
  | member =>
    cases n with
    | expression e => exact absurd h ordinary
    | statement s => exact absurd h ordinary
    | _ => cases union
  | classBody =>
    cases n with
    | typeDeclaration d => cases union
    | _ => exact h.elim
  | caught =>
    cases n with
    | variableDeclaration v => cases union
    | _ => exact h.elim
  | declaredType => rfl
  | type => exact absurd union h.2
  | callee =>
    rw [Admits, union] at h
    rcases h with h | h <;> cases h
  | initializer => exact absurd h.1 ordinary

/-- A variable whose type is a union is admitted as the parameter of a `catch` alone. -/
theorem caught_of_union {v : VariableDeclaration} (h : role.Admits (.variableDeclaration v))
    (union : v.type.node.kind = .unionType) : role = .caught := by
  cases role with
  | ordinary | member => exact absurd union h
  | classBody => exact h.elim
  | caught => rfl
  | declaredType => cases h
  | type => cases h.1
  | callee => rcases h with h | h <;> cases h
  | initializer => exact absurd union h.1

end Admits

end Role

/-! ## Trees that suit a role -/

namespace Node

/-- Whether a node may stand in a role, and whatever its slots hold may stand there. -/
inductive Suits : Node → Role → Prop where
  | intro {n : Node} {role : Role} (admitted : role.Admits n)
      (held : ∀ part ∈ n.parts, ∀ c ∈ part.2.held, Suits c (n.shape.role part.1)) : Suits n role

namespace Suits

variable {n : Node} {role : Role} {span : Span}

/-- What suits a role is admitted in it. -/
theorem admitted (h : n.Suits role) : role.Admits n := by
  cases h with
  | intro admitted held => exact admitted

/-- What a slot holds suits the role of the slot. -/
theorem held (h : n.Suits role) :
    ∀ part ∈ n.parts, ∀ c ∈ part.2.held, c.Suits (n.shape.role part.1) := by
  cases h with
  | intro admitted held => exact held

/-- What suits one role suits every role that admits it. -/
theorem recast {other : Role} (h : n.Suits role) (admitted : other.Admits n) : n.Suits other :=
  .intro admitted h.held

/-- A type may stand where nothing in particular is asked for. -/
theorem ordinary (h : n.Suits .type) : n.Suits .ordinary :=
  h.recast h.admitted.ordinary_of_type

/-- A type may stand where a union might. -/
theorem declaredType (h : n.Suits .type) : n.Suits .declaredType :=
  h.recast h.admitted.1

/-- A node all of whose slots are ordinary. -/
theorem plain (slots : ∀ slot, n.shape.role slot = .ordinary) (admitted : role.Admits n)
    (children : ∀ c ∈ n.children, c.Suits .ordinary) : n.Suits role := by
  refine .intro admitted fun part hp c hc => ?_
  rw [slots]
  refine children c ?_
  rw [← n.nodes_parts]
  exact List.mem_flatMap.mpr ⟨part, hp, hc⟩

/-! ### Nodes with slots that are not ordinary -/

-- the slots of a form and what they hold are read off its tables
attribute [local simp] parts Expression.parts Statement.parts Part.held
attribute [local simp] shape Expression.shape Statement.shape Expression.node Statement.node

/-- A name has no slots. -/
theorem identifier {i : Identifier} (admitted : role.Admits i.node) : i.node.Suits role :=
  .plain (fun _ => rfl) admitted forall_children_identifier

/-- A selection may stand where a name may, provided its qualifier is in its place. -/
theorem memberSelect {qualifier : Expression} {name : Identifier}
    (admitted : role.Admits (Expression.memberSelect span qualifier name).node)
    (scope : qualifier.node.Suits .ordinary) :
    (Expression.memberSelect span qualifier name).node.Suits role :=
  .plain (fun _ => rfl) admitted
    (forall_children_memberSelect.mpr ⟨scope, .identifier Kind.noConfusion⟩)

/-- The slot of a call that holds what is called asks for a name. -/
theorem methodInvocation {callee : Expression} {types values : List Expression}
    (called : callee.node.Suits .callee) (typed : ∀ t ∈ types, t.node.Suits .type)
    (given : ∀ v ∈ values, v.node.Suits .ordinary) :
    (Expression.methodInvocation span callee types values).node.Suits .ordinary := by
  refine .intro Kind.noConfusion ?_
  simpa [Shape.role, Shape.typeSlots] using ⟨called, typed, given⟩

/-- The body of a creation is a class without a name. -/
theorem newClass {enclosing : Option Expression} {types : List Expression} {type : Expression}
    {values : List Expression} {body : Option TypeDeclaration}
    (outer : ∀ e, enclosing = some e → e.node.Suits .ordinary)
    (typed : ∀ t ∈ types, t.node.Suits .type) (made : type.node.Suits .type)
    (given : ∀ v ∈ values, v.node.Suits .ordinary)
    (extended : ∀ d, body = some d → (Node.typeDeclaration d).Suits .classBody) :
    (Expression.newClass span enclosing types type values body).node.Suits .ordinary := by
  refine .intro Kind.noConfusion ?_
  simpa [Shape.role, Shape.typeSlots] using ⟨outer, typed, made, given, extended⟩

/-- Sizes and elements are ordinary, the type of the elements is a type. -/
theorem newArray {type : Option Expression} {sizes elements : List Expression}
    (typed : ∀ t, type = some t → t.node.Suits .type) (sized : ∀ s ∈ sizes, s.node.Suits .ordinary)
    (filled : ∀ e ∈ elements, e.node.Suits .ordinary) :
    (Expression.newArray span type sizes elements).node.Suits .ordinary := by
  refine .intro Kind.noConfusion ?_
  simpa [Shape.role, Shape.typeSlots] using ⟨typed, sized, filled⟩

/-- The first slot of a cast is a type. -/
theorem typeCast {type value : Expression} (typed : type.node.Suits .type)
    (given : value.node.Suits .ordinary) :
    (Expression.typeCast span type value).node.Suits .ordinary := by
  refine .intro Kind.noConfusion ?_
  simpa [Shape.role, Shape.typeSlots] using ⟨typed, given⟩

/-- The second slot of a type test is a type. -/
theorem instanceOf {value type : Expression} {keyword : SyntaxToken}
    (given : value.node.Suits .ordinary) (typed : type.node.Suits .type) :
    (Expression.instanceOf span value keyword type).node.Suits .ordinary := by
  refine .intro Kind.noConfusion ?_
  simpa [Shape.role, Shape.typeSlots] using ⟨given, typed⟩

/-- The elements of an array type have a type. -/
theorem arrayType {element : Expression} (typed : element.node.Suits .type) :
    (Expression.arrayType span element).node.Suits .type := by
  refine .intro ⟨rfl, Kind.noConfusion⟩ ?_
  simpa [Shape.role, Shape.typeSlots] using typed

/-- The base and the arguments of a type are types. -/
theorem parameterizedType {base : Expression} {types : List Expression}
    (made : base.node.Suits .type) (typed : ∀ t ∈ types, t.node.Suits .type) :
    (Expression.parameterizedType span base types).node.Suits .type := by
  refine .intro ⟨rfl, Kind.noConfusion⟩ ?_
  simpa [Shape.role, Shape.typeSlots] using ⟨made, typed⟩

/-- The bound of a wildcard is a type. -/
theorem wildcard {kind : WildcardKind} {bound : Option Expression}
    (typed : ∀ t, bound = some t → t.node.Suits .type) :
    (Expression.wildcard kind span bound).node.Suits .type := by
  refine .intro ⟨rfl, Kind.noConfusion⟩ ?_
  simpa [Shape.role, Shape.typeSlots] using typed

/-- A union suits the one role that admits it. Its alternatives are no unions. -/
theorem unionType {types : List Expression} (typed : ∀ t ∈ types, t.node.Suits .type) :
    (Expression.unionType span types).node.Suits .declaredType := by
  refine .intro rfl ?_
  simpa [Shape.role, Shape.typeSlots] using typed

/-- Bounds are types. -/
theorem typeParameter {p : TypeParameter} (bounded : ∀ t ∈ p.bounds, t.node.Suits .type) :
    (Node.typeParameter p).Suits .ordinary := by
  refine .intro trivial ?_
  simpa [Shape.role, Shape.typeSlots] using ⟨.identifier Kind.noConfusion, bounded⟩

/-- A variable suits any role that admits it, so the parameter of a `catch` is covered too. -/
theorem variableDeclaration {v : VariableDeclaration}
    (admitted : role.Admits (.variableDeclaration v))
    (listed : ∀ m, v.modifiers = some m → (Node.modifiers m).Suits .ordinary)
    (typed : v.type.node.Suits .declaredType)
    (given : ∀ e, v.initializer = some e → e.node.Suits .ordinary) :
    (Node.variableDeclaration v).Suits role := by
  refine .intro admitted ?_
  simpa [Shape.role, Shape.typeSlots] using ⟨listed, typed, .identifier Kind.noConfusion, given⟩

/-- The return type and what is thrown are types. -/
theorem method {m : MethodDeclaration}
    (listed : ∀ a, m.modifiers = some a → (Node.modifiers a).Suits .ordinary)
    (bounded : ∀ p ∈ m.typeParameters, (Node.typeParameter p).Suits .ordinary)
    (returned : ∀ t, m.returnType = some t → t.node.Suits .type)
    (passed : ∀ v ∈ m.parameters, (Node.variableDeclaration v).Suits .ordinary)
    (thrown : ∀ t ∈ m.throws, t.node.Suits .type)
    (bodied : ∀ b, m.body = some b → (Node.block b).Suits .ordinary)
    (valued : ∀ e, m.defaultValue = some e → e.node.Suits .ordinary) :
    (Node.method m).Suits .ordinary := by
  refine .intro trivial ?_
  simpa [Shape.role, Shape.typeSlots] using
    ⟨listed, bounded, returned, .identifier Kind.noConfusion, passed, thrown, bodied, valued⟩

/-- The body of a constant is a class without a name. -/
theorem enumConstant {c : EnumConstant}
    (listed : ∀ m, c.modifiers = some m → (Node.modifiers m).Suits .ordinary)
    (given : ∀ v ∈ c.arguments, v.node.Suits .ordinary)
    (extended : ∀ d, c.body = some d → (Node.typeDeclaration d).Suits .classBody) :
    (Node.enumConstant c).Suits .ordinary := by
  refine .intro trivial ?_
  simpa [Shape.role, Shape.typeSlots] using ⟨listed, .identifier Kind.noConfusion, given, extended⟩

/-- Members stand in the role of a member, and the rest of the header is ordinary or a type. -/
theorem typeDeclaration {d : TypeDeclaration} (admitted : role.Admits (.typeDeclaration d))
    (listed : ∀ m, d.modifiers = some m → (Node.modifiers m).Suits .ordinary)
    (bounded : ∀ p ∈ d.typeParameters, (Node.typeParameter p).Suits .ordinary)
    (extended : ∀ t, d.superclass = some t → t.node.Suits .type)
    (implemented : ∀ t ∈ d.superInterfaces, t.node.Suits .type)
    (held : ∀ m ∈ d.members, m.node.Suits .member) : (Node.typeDeclaration d).Suits role := by
  refine .intro admitted ?_
  simpa [Shape.role, Shape.typeSlots] using
    ⟨listed, fun _ _ => .identifier Kind.noConfusion, bounded, extended, implemented, held⟩

/-- What a `for` starts with has a role of its own. -/
theorem forLoop {starts : List Statement} {condition : Option Expression}
    {update : List ExpressionStatement} {body : Statement}
    (started : ∀ s ∈ starts, s.node.Suits .initializer)
    (tested : ∀ e, condition = some e → e.node.Suits .ordinary)
    (updated : ∀ s ∈ update, (Node.expressionStatement s).Suits .ordinary)
    (given : body.node.Suits .ordinary) :
    (Statement.forLoop span starts condition update body).node.Suits .ordinary := by
  refine .intro rfl ?_
  simpa [Shape.role, Shape.typeSlots] using ⟨started, tested, updated, given⟩

/-- The parameter of a `catch` has a role of its own. -/
theorem catchClause {c : CatchClause}
    (declared : (Node.variableDeclaration c.parameter).Suits .caught)
    (bodied : (Node.block c.block).Suits .ordinary) : (Node.catchClause c).Suits .ordinary := by
  refine .intro trivial ?_
  simpa [Shape.role, Shape.typeSlots] using ⟨declared, bodied⟩

end Suits

/-! ## Where a node stands -/

/-- A slot of a node. -/
structure Seat where
  holder : Node
  slot : String

/-- Whether a node stands in a tree, below the given slots, from the slot that holds it up to that
of the root. -/
inductive Stands (root : Node) : List Seat → Node → Prop where
  | root : Stands root [] root
  | inner {above : List Seat} {holder n : Node} {slot : String} {part : Part}
      (outer : Stands root above holder) (offered : (slot, part) ∈ holder.parts)
      (held : n ∈ part.held) : Stands root (⟨holder, slot⟩ :: above) n

/-- The place that a node has below the given slots: the innermost of them, and the shape of the
node that it is a slot of. -/
def place : List Seat → Option (Shape × String)
  | [] => none
  | seat :: _ => some (seat.holder.shape, seat.slot)

/-- Every node of a tree stands in it somewhere. -/
theorem exists_stands {root n : Node} (h : n ∈ root.preorder) : ∃ above, root.Stands above n := by
  -- the induction goes down from the root, so the node that it has come to may stand anywhere
  have inner (m : Node) : ∀ above, root.Stands above m → n ∈ m.preorder →
      ∃ above, root.Stands above n := by
    induction m using Node.preorder.induct with
    | case1 m ih =>
      intro above stands hn
      rw [preorder_eq, List.mem_cons] at hn
      rcases hn with rfl | hn
      · exact ⟨above, stands⟩
      · obtain ⟨c, hc, hn⟩ := List.mem_flatMap.mp hn
        obtain ⟨⟨slot, part⟩, offered, held⟩ := List.mem_flatMap.mp (m.nodes_parts ▸ hc)
        exact ih ⟨c, hc⟩ _ (.inner stands offered held) hn
  exact inner root [] .root h

/-- What stands in an ordinary tree suits the role of its place. -/
theorem Stands.suits {root n : Node} {above : List Seat} (h : root.Stands above n)
    (suits : root.Suits .ordinary) : n.Suits (roleAt (place above)) := by
  induction h with
  | root => exact suits
  | inner outer offered held ih => exact ih.held _ offered _ held

/-! ## What the roles say -/

/-- Whether a node may stand below the given slots. -/
structure InRole (above : List Seat) (n : Node) : Prop where
  /-- A block is an initializer if it is a member of a type, and a plain block if not. -/
  block : n.shape = .block → ∃ b, n = .block b ∧
    (b.kind = .instanceInitializer ∨ b.kind = .staticInitializer ↔
      place above = some (.typeDeclaration, "members")) ∧
    (b.kind = .plain ↔ place above ≠ some (.typeDeclaration, "members"))
  /-- A class has no name if it is the body of an instance creation or enum constant, and has one if
  not. -/
  declaration : n.shape = .typeDeclaration → ∃ d, n = .typeDeclaration d ∧
    (d.isAnonymous ↔ place above = some (.newClass, "class_body") ∨
      place above = some (.enumConstant, "class_body"))
  /-- A call selects an identifier or a member, so it has a name. -/
  callee : ∀ span select types values,
    n = .expression (.methodInvocation span select types values) →
      (select.kind = .identifier ∨ select.kind = .memberSelect) ∧ select.methodName?.isSome
  /-- A `for` starts with variables and expressions. -/
  initializer : place above = some (.forStatement, "initializer") →
    n.kind = .variableDeclaration ∨ n.kind = .expressionStatement
  /-- A slot for a type holds a name or a type. -/
  type : ∀ shape slot, place above = some (shape, slot) → slot ∈ shape.typeSlots →
    n.kind.amongTypes
  /-- A union is the type of the parameter of a `catch`. -/
  union : n.kind = .unionType → ∃ v c outer,
    above = ⟨.variableDeclaration v, "var_type"⟩ :: ⟨.catchClause c, "parameter"⟩ :: outer

/-! ### From roles to what they say -/

variable {root n : Node} {above : List Seat} {role : Role}

/-- A node of the shape of a block is a block, since no role admits one as a statement. -/
theorem block_of_shape (h : role.Admits n) (shape : n.shape = .block) : ∃ b, n = .block b := by
  cases n with
  | block b => exact ⟨b, rfl⟩
  | statement s =>
    have alone := h.node_statement
    cases s with
    | block b => exact ⟨b, alone.symm⟩
    | _ => cases shape
  | expression e => cases e <;> cases shape
  | _ => cases shape

/-- The same for declared types. -/
theorem typeDeclaration_of_shape (h : role.Admits n) (shape : n.shape = .typeDeclaration) :
    ∃ d, n = .typeDeclaration d := by
  cases n with
  | typeDeclaration d => exact ⟨d, rfl⟩
  | statement s =>
    have alone := h.node_statement
    cases s with
    | typeDeclaration d => exact ⟨d, alone.symm⟩
    | _ => cases shape
  | expression e => cases e <;> cases shape
  | _ => cases shape

/-- The same for declared variables. -/
theorem variableDeclaration_of_shape (h : role.Admits n) (shape : n.shape = .variableDeclaration) :
    ∃ v, n = .variableDeclaration v := by
  cases n with
  | variableDeclaration v => exact ⟨v, rfl⟩
  | statement s =>
    have alone := h.node_statement
    cases s with
    | variableDeclaration v => exact ⟨v, alone.symm⟩
    | _ => cases shape
  | expression e => cases e <;> cases shape
  | _ => cases shape

theorem catchClause_of_shape (shape : n.shape = .catchClause) : ∃ c, n = .catchClause c := by
  cases n with
  | catchClause c => exact ⟨c, rfl⟩
  | statement s => cases s <;> cases shape
  | expression e => cases e <;> cases shape
  | _ => cases shape

/-- A union in an ordinary tree is the type of the parameter of a `catch`. -/
theorem Stands.caught_of_union (h : root.Stands above n) (suits : root.Suits .ordinary)
    (union : n.kind = .unionType) : ∃ v c outer,
      above = ⟨.variableDeclaration v, "var_type"⟩ :: ⟨.catchClause c, "parameter"⟩ :: outer := by
  have typed := roleAt_eq_declaredType.mp ((h.suits suits).admitted.declaredType_of_union union)
  cases h with
  | root => cases typed
  | @inner above holder _ slot part outer offered held =>
    simp only [place, Option.some.injEq, Prod.mk.injEq] at typed
    obtain ⟨shape, rfl⟩ := typed
    have declared := (outer.suits suits).admitted
    obtain ⟨v, rfl⟩ := variableDeclaration_of_shape declared shape
    -- the union is the type of a variable, so the variable is the parameter of a `catch`
    obtain rfl : part = .expression v.type := by
      simpa [parts, Statement.parts] using offered
    have type : n = v.type.node := List.mem_singleton.mp held
    have caught := roleAt_eq_caught.mp (declared.caught_of_union (type ▸ union))
    cases above with
    | nil => cases caught
    | cons seat rest =>
      obtain ⟨clause, slot⟩ := seat
      simp only [place, Option.some.injEq, Prod.mk.injEq] at caught
      obtain ⟨shape, rfl⟩ := caught
      obtain ⟨c, rfl⟩ := catchClause_of_shape shape
      exact ⟨v, c, rest, rfl⟩

/-- The name of a call whose callee may stand there. -/
theorem methodName?_of_callee {callee : Expression} (h : Role.callee.Admits callee.node) :
    (callee.kind = .identifier ∨ callee.kind = .memberSelect) ∧ callee.methodName?.isSome := by
  cases callee with
  | identifier => exact ⟨.inl rfl, rfl⟩
  | memberSelect => exact ⟨.inr rfl, rfl⟩
  | _ => rcases h with h | h <;> cases h

/-- **In an ordinary tree every node is in its role.** -/
theorem Suits.inRole (suits : root.Suits .ordinary) (stands : root.Stands above n) :
    n.InRole above := by
  have fits := stands.suits suits
  have admitted := fits.admitted
  refine ⟨fun shape => ?_, fun shape => ?_, ?_, fun placed => ?_, ?_, stands.caught_of_union suits⟩
  · obtain ⟨b, rfl⟩ := block_of_shape admitted shape
    have plain := admitted.block_plain.trans (not_congr roleAt_eq_member)
    refine ⟨b, rfl, ?_, plain⟩
    rw [← Classical.not_not (a := place above = _), ← plain]
    cases b.kind <;> simp
  · obtain ⟨d, rfl⟩ := typeDeclaration_of_shape admitted shape
    exact ⟨d, rfl, admitted.isAnonymous.trans roleAt_eq_classBody⟩
  · rintro span select types values rfl
    exact methodName?_of_callee (fits.held _ List.mem_cons_self _ List.mem_cons_self).admitted
  · rw [placed] at admitted
    exact admitted.2
  · intro shape slot placed typed
    rw [placed] at admitted
    rcases Shape.role_of_mem_typeSlots typed with role | role
    · rw [roleAt, role] at admitted
      exact admitted.1
    · rw [roleAt, role] at admitted
      exact admitted

end Node

end JavaSyntax
