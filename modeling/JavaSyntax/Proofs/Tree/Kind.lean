import JavaSyntax.Proofs.Tree.WellFormed
import JavaSyntax.Tree.Form
import JavaSyntax.Tree.Query

/-!
# Kinds — what a node does follows from its kind

The kind of a node is passed to its constructor, the entry that a visitor calls is chosen by the
form of the node, and the categories and the families of kinds are tables of their own. They agree
at all nodes of a tree that is made by constructors.

* `Visitor.accept_eq`: a visitor dispatches as if it looked at the kind alone;
* `Node.isSome_asExpression?`, `Node.isSome_asStatement?`, `Node.isSome_asMember?`: the kind of a
  node tells which sums it belongs to;
* `Expression.operatorToken_exact`: which expressions have an operator, and how the others refuse;
* `kind_decides`: all of this throughout a tree.
-/

namespace JavaSyntax

/-! ## Kinds of the members of a sum -/

namespace Kind

/-- Whether nodes of the kind stand among statements: statements, and declarations of local
variables and local types. -/
def amongStatements : Kind → Bool
  | variableDeclaration | typeDeclaration _ => true
  | kind => kind.isStatement

/-- Whether nodes of the kind stand in the body of a type. -/
def amongMembers : Kind → Bool
  | block _ | emptyStatement | variableDeclaration | callable _ | typeDeclaration _
  | enumConstant => true
  | _ => false

/-- Whether expressions of the kind have an operator token. -/
def hasOperator (kind : Kind) : Bool :=
  kind.isUnary || kind.isBinary || kind.isAssignment || kind == .instanceOf

end Kind

theorem Expression.kind_node (e : Expression) : e.node.kind = e.kind := by
  cases e <;> rfl

theorem Statement.kind_node (s : Statement) : s.node.kind = s.kind := by
  cases s <;> rfl

theorem Member.kind_node (m : Member) : m.node.kind = m.kind := by
  cases m <;> rfl

theorem Expression.isExpression_kind (e : Expression) : e.kind.isExpression := by
  cases e <;> rfl

theorem Statement.amongStatements_kind (s : Statement) : s.kind.amongStatements := by
  cases s <;> rfl

theorem Member.amongMembers_kind (m : Member) : m.kind.amongMembers := by
  cases m <;> rfl

/-- The constructors of types make a type of the kind that they were given. A declaration without a
name is read back as the class of a body. -/
theorem Statement.made_typeDeclaration {t : TypeDeclaration} {n : Node}
    (made : (Statement.typeDeclaration t).draft.make = .ok n) :
    ∃ declared, n = .typeDeclaration declared ∧
      (Statement.typeDeclaration t).draft.kind = .typeDeclaration declared.kind := by
  obtain ⟨typeKind, span, modifiers, name, typeParameters, superclass, interfaces, members⟩ := t
  cases name with
  | none =>
    cases made
    exact ⟨_, rfl, rfl⟩
  | some name =>
    obtain ⟨declared, checked, rfl⟩ := Checked.map_eq_ok.mp made
    obtain ⟨_, family, -, -, -, rfl⟩ := Checked.typeDeclaration_eq_ok.mp checked
    exact ⟨_, rfl, family⟩

/-! ## Nodes seen as members of a sum -/

namespace Node

theorem kind_of_asExpression? {n : Node} {e : Expression} (h : n.asExpression? = some e) :
    e.kind = n.kind := by
  cases n with
  | expression found =>
    cases h
    rfl
  | annotationUse use =>
    cases h
    rfl
  | _ => cases h

/-- A node is an expression if and only if its kind is one. -/
theorem isSome_asExpression? (n : Node) : n.asExpression?.isSome ↔ n.kind.isExpression := by
  cases n with
  | expression e => exact iff_of_true rfl e.isExpression_kind
  | annotationUse use => exact iff_of_true rfl rfl
  | statement s =>
    refine iff_of_false Bool.false_ne_true ?_
    show ¬ s.kind.isExpression
    cases s <;> exact Bool.false_ne_true
  | _ => exact iff_of_false Bool.false_ne_true Bool.false_ne_true

/-- A node stands among statements if and only if its kind does. -/
theorem isSome_asStatement? (n : Node) : n.asStatement?.isSome ↔ n.kind.amongStatements := by
  cases n with
  | statement s => exact iff_of_true rfl s.amongStatements_kind
  | block | expressionStatement | variableDeclaration | typeDeclaration => exact iff_of_true rfl rfl
  | expression e =>
    refine iff_of_false Bool.false_ne_true ?_
    show ¬ e.kind.amongStatements
    cases e <;> exact Bool.false_ne_true
  | _ => exact iff_of_false Bool.false_ne_true Bool.false_ne_true

/-- What its constructor makes is seen in one way only: a block is not also one of the other
statements. -/
theorem isSome_asMember? {n : Node} (made : n.draft.make = .ok n) :
    n.asMember?.isSome ↔ n.kind.amongMembers := by
  cases n with
  | statement s =>
    cases s with
    | empty => exact iff_of_true rfl rfl
    | typeDeclaration =>
      obtain ⟨_, other, -⟩ := Statement.made_typeDeclaration made
      cases other
    | block | variableDeclaration =>
      obtain ⟨_, -, other⟩ := Checked.map_eq_ok.mp made
      cases other
    | _ => exact iff_of_false Bool.false_ne_true Bool.false_ne_true
  | expression e =>
    refine iff_of_false Bool.false_ne_true ?_
    show ¬ e.kind.amongMembers
    cases e <;> exact Bool.false_ne_true
  | block | variableDeclaration | method | typeDeclaration | enumConstant =>
    exact iff_of_true rfl rfl
  | _ => exact iff_of_false Bool.false_ne_true Bool.false_ne_true

end Node

/-! ## Operators -/

/-- An expression has an operator if its kind says so, and otherwise refuses with its kind. -/
theorem Expression.operatorToken_exact (e : Expression) :
    ((∃ token, e.operatorToken = .ok token) ↔ e.kind.hasOperator) ∧
      ∀ refusal, e.operatorToken = .error refusal → refusal = ⟨e.kind, "operator_token"⟩ := by
  cases e with
  | unary operation span operator operand => exact ⟨iff_of_true ⟨operator, rfl⟩ rfl, nofun⟩
  | binary operation span left operator right => exact ⟨iff_of_true ⟨operator, rfl⟩ rfl, nofun⟩
  | assignment operation span target operator value =>
    exact ⟨iff_of_true ⟨operator, rfl⟩ rfl, nofun⟩
  | instanceOf span value keyword type => exact ⟨iff_of_true ⟨keyword, rfl⟩ rfl, nofun⟩
  | _ =>
    refine ⟨iff_of_false (fun ⟨_, h⟩ => nomatch h) Bool.false_ne_true, fun refusal h => ?_⟩
    cases h
    rfl

/-! ## Dispatch -/

namespace Visitor

variable {σ : Type} (visitor : Visitor σ)

/-- The entry that belongs to a kind: that of its shape if the visitor has one, and the common entry
if not. -/
def entryOf (kind : Kind) : Option Shape :=
  if (visitor.handler kind.shape).isSome then some kind.shape else none

/-- What a visitor does at nodes of a kind. -/
def method (kind : Kind) : σ → Node → σ :=
  (visitor.handler kind.shape).getD visitor.otherwise

theorem visitOf_eq (n : Node) : visitor.visitOf n = ⟨visitor.entryOf n.kind, n⟩ := by
  rw [visitOf, entryOf, n.shape_kind]

/-- A visitor dispatches as if it looked at the kind of a node. -/
theorem accept_eq (s : σ) (n : Node) : visitor.accept s n = visitor.method n.kind s n := by
  rw [accept, method, n.shape_kind]
  cases visitor.handler n.shape <;> rfl

end Visitor

/-- The kind that was passed to a constructor is the kind of what it makes. -/
theorem Draft.kind_of_make {d : Draft} {n : Node} (made : d.make = .ok n) : d.kind = n.kind := by
  rw [← (d.make_meets.forall_of_ok made).2]
  have read : n.draft.make = .ok n := Draft.make_draft made
  cases n with
  | typeDeclaration t =>
    obtain ⟨_, same, kind⟩ := Statement.made_typeDeclaration read
    cases same
    exact kind
  | expression e => cases e <;> rfl
  | statement s =>
    cases s with
    | typeDeclaration t =>
      obtain ⟨_, other, -⟩ := Statement.made_typeDeclaration read
      cases other
    | _ => rfl
  | _ => rfl

/-! ## Whole trees -/

/-- What the kind of a node decides. -/
structure Node.DecidedByKind (n : Node) : Prop where
  /-- The constructor of the node was given the kind, and accepts the parts that the node has. -/
  made : n.draft.kind = n.kind ∧ n.draft.make = .ok n
  /-- A visitor calls one entry, that of the kind, once. -/
  dispatch : ∀ (σ : Type) (visitor : Visitor σ) (s : σ) (noted : List Visit),
    visitor.noting.accept (s, noted) n =
      (visitor.method n.kind s n, noted ++ [⟨visitor.entryOf n.kind, n⟩])
  expression : n.asExpression?.isSome ↔ n.kind.isExpression
  statement : n.asStatement?.isSome ↔ n.kind.amongStatements
  member : n.asMember?.isSome ↔ n.kind.amongMembers
  operator : ∀ e, n.asExpression? = some e →
    ((∃ token, e.operatorToken = .ok token) ↔ n.kind.hasOperator) ∧
      ∀ refusal, e.operatorToken = .error refusal → refusal = ⟨n.kind, "operator_token"⟩

theorem Node.decidedByKind_of_make {n : Node} (made : n.draft.make = .ok n) : n.DecidedByKind where
  made := ⟨Draft.kind_of_make made, made⟩
  dispatch σ visitor s noted := by
    rw [Visitor.accept_noting, Visitor.accept_eq, Visitor.visitOf_eq]
  expression := n.isSome_asExpression?
  statement := n.isSome_asStatement?
  member := isSome_asMember? made
  operator e h := by
    rw [← kind_of_asExpression? h]
    exact e.operatorToken_exact

/-- **The kind of a node decides what it does.** In a tree that is made by constructors, each node
has the kind that its constructor was given; a visitor calls the one entry that belongs to the kind,
so the same one at nodes of equal kind; the kind tells whether the node is an expression, stands
among statements or in the body of a type; and an expression has an operator token exactly if its
kind is a unary, binary or assignment operation or `instanceof`, and otherwise refuses with that
kind. All values of the three sums have a kind that belongs there. -/
theorem kind_decides {n : Node} (obtainable : Obtainable n) :
    (∀ m ∈ n.preorder, m.DecidedByKind) ∧
      (∀ m ∈ n.preorder, ∀ other ∈ n.preorder, m.kind = other.kind →
        m.shape = other.shape ∧
          ∀ (σ : Type) (visitor : Visitor σ),
            (visitor.visitOf m).entry = (visitor.visitOf other).entry) ∧
      (∀ e : Expression, e.node.kind = e.kind ∧ e.kind.isExpression) ∧
      (∀ s : Statement, s.node.kind = s.kind ∧ s.kind.amongStatements) ∧
      ∀ m : Member, m.node.kind = m.kind ∧ m.kind.amongMembers := by
  refine ⟨?_, ?_, ?_, ?_, ?_⟩
  · intro m hm
    exact Node.decidedByKind_of_make (obtainable.forall_mem_preorder m hm)
  · intro m _ other _ same
    have shape : m.shape = other.shape := by rw [← m.shape_kind, same, other.shape_kind]
    refine ⟨shape, fun σ visitor => ?_⟩
    rw [visitor.visitOf_eq, visitor.visitOf_eq, same]
  · exact fun e => ⟨e.kind_node, e.isExpression_kind⟩
  · exact fun s => ⟨s.kind_node, s.amongStatements_kind⟩
  · exact fun m => ⟨m.kind_node, m.amongMembers_kind⟩

/-- Both `List<? extends T>` and the `T` in it are expressions without an operator. -/
theorem boundedList_decided : Obtainable boundedList.node ∧
    boundedList.node.DecidedByKind ∧
    boundedList.operatorToken = .error ⟨.parameterizedType, "operator_token"⟩ ∧
    boundOfList.node.DecidedByKind ∧
    boundOfList.operatorToken = .error ⟨.identifier, "operator_token"⟩ := by
  obtain ⟨list, inside⟩ :=
    Node.forall_mem_preorder.mp (kind_decides boundedList_obtainable).1
  have wildcard := (Node.forall_children_parameterizedType.mp inside).2 boundedWildcard
    (List.mem_singleton_self boundedWildcard)
  have bound := Node.forall_children_wildcard.mp (Node.forall_mem_preorder.mp wildcard).2 _ rfl
  exact ⟨boundedList_obtainable, list, rfl, (Node.forall_mem_preorder.mp bound).1, rfl⟩

end JavaSyntax
