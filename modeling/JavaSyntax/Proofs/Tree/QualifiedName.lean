import JavaSyntax.Proofs.Tree.Traversal
import JavaSyntax.Tree.Form
import JavaSyntax.Tree.Query

/-!
# Qualified names — when an expression has one, and which

A dotted name is a chain of member selects that are nested to the left and end in an identifier. Just
these expressions have a qualified name, and it can be read from the traversal: it is made of the
identifiers that the iterator yields, in its order.

* `Expression.IsDotted`: chains of member selects down to an identifier;
* `Node.identifiers`: the identifiers among a node and its descendants;
* `Expression.qualifiedName?_eq_some_iff`: which expressions have a qualified name, and what it is.
-/

namespace JavaSyntax

/-- Whether an expression is an identifier or a member select of such an expression. -/
inductive Expression.IsDotted : Expression → Prop where
  | identifier {name} : IsDotted (.identifier name)
  | select {span qualifier name} (dotted : IsDotted qualifier) :
      IsDotted (.memberSelect span qualifier name)

/-- The identifiers among a node and all nodes below it, in the order in which they are yielded. -/
def Node.identifiers (n : Node) : List Identifier :=
  n.descendants.toList.filterMap Node.asIdentifier?

namespace Expression

variable {span : Span} {qualifier e : Expression} {name : Identifier}

theorem preorder_identifier (name : Identifier) :
    name.node.preorder = [name.node] := by
  rw [Node.preorder_eq]
  rfl

theorem preorder_memberSelect : (memberSelect span qualifier name).node.preorder =
    (memberSelect span qualifier name).node :: (qualifier.node.preorder ++ [name.node]) := by
  have children : (memberSelect span qualifier name).node.children = [qualifier.node, name.node] := rfl
  rw [Node.preorder_eq, children, List.flatMap_cons, List.flatMap_singleton, preorder_identifier]

theorem identifiers_identifier : (identifier name).node.identifiers = [name] := by
  rw [Node.identifiers, Descendants.toList_descendants]
  show (name.node.preorder).filterMap Node.asIdentifier? = [name]
  rw [preorder_identifier]
  rfl

theorem identifiers_memberSelect : (memberSelect span qualifier name).node.identifiers =
    qualifier.node.identifiers ++ [name] := by
  simp only [Node.identifiers, Descendants.toList_descendants]
  rw [preorder_memberSelect, List.filterMap_cons_none rfl, List.filterMap_append]
  rfl

theorem IsDotted.identifiers_ne_nil (h : e.IsDotted) : e.node.identifiers ≠ [] := by
  cases h with
  | identifier => simp [identifiers_identifier]
  | select => simp [identifiers_memberSelect]

theorem qualifiedName?_of_isDotted (h : e.IsDotted) :
    e.qualifiedName? = some (".".intercalate (e.node.identifiers.map Identifier.name)) := by
  induction h with
  | identifier =>
    rw [identifiers_identifier, List.map_singleton, String.intercalate_singleton]
    rfl
  | select dotted ih =>
    have some_ := dotted.identifiers_ne_nil
    rw [qualifiedName?, ih, identifiers_memberSelect, List.map_append,
      String.intercalate_append_of_ne_nil (by simpa using some_) (by simp), List.map_singleton,
      String.intercalate_singleton]

theorem isDotted_of_qualifiedName? (h : e.qualifiedName?.isSome) : e.IsDotted := by
  fun_induction qualifiedName? e with
  | case1 name => exact .identifier
  | case2 span qualifier name text named ih => exact .select (ih (by rw [named]; rfl))
  | case3 span qualifier name unnamed => cases h
  | case4 e => cases h

/-- **Qualified names.** An expression has a qualified name if and only if it is a dotted name, and then
it is made of all its identifiers, in the order in which the iterator over descendants yields them. -/
theorem qualifiedName?_eq_some_iff (e : Expression) (text : String) :
    e.qualifiedName? = some text ↔
      e.IsDotted ∧ text = ".".intercalate (e.node.identifiers.map Identifier.name) := by
  constructor
  · intro h
    have dotted := isDotted_of_qualifiedName? (Option.isSome_of_mem h)
    rw [qualifiedName?_of_isDotted dotted, Option.some.injEq] at h
    exact ⟨dotted, h.symm⟩
  · rintro ⟨dotted, rfl⟩
    exact qualifiedName?_of_isDotted dotted

end Expression

end JavaSyntax
