import JavaSyntax.Tree.Node

/-!
# Equality of trees

Two nodes are equal if they agree in what they hold themselves (their header) and their children
are equal one by one. The header counts the nodes in each slot, so that equal children stand in
equal slots.
-/

namespace JavaSyntax

/-- All that a node holds itself: what is left of it without its children. -/
structure Node.Header where
  shape : Shape
  kind : Kind
  span : Span
  tokens : List SyntaxToken
  /-- How many nodes each slot holds. -/
  arities : List Nat
  isStatic : Bool
  deriving DecidableEq, Repr

def Node.header (n : Node) : Node.Header where
  shape := n.shape
  kind := n.kind
  span := n.span
  tokens := n.tokens
  arities := n.slots.map List.length
  isStatic := match n with
    | .importDeclaration declaration => declaration.isStatic
    | _ => false

/-- Whether two trees are equal in every part. -/
def Node.equal (a b : Node) : Bool :=
  a.header == b.header &&
    (a.children.attach.zip b.children).all fun pair => pair.1.1.equal pair.2
termination_by sizeOf a
decreasing_by exact Node.sizeOf_lt_of_mem_children pair.1.2

instance : BEq Node := ⟨Node.equal⟩

end JavaSyntax
