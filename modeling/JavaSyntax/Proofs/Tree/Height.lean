import JavaSyntax.Lowering.Type
import JavaSyntax.Proofs.Tree.Children

/-!
# Height — how deep a typed tree nests

The height of a node is the number of nodes on the longest way down from it, which is how deep a
recursion over it goes.

* `Node.height_le_succ_iff`: a node is as low as its children allow;
* `height_foldl_arrayOf`: each pair of brackets adds one to the height of a type.
-/

namespace JavaSyntax

/-- The number of nodes on the longest way down from a node. -/
def Node.height (n : Node) : Nat :=
  (n.children.attach.map fun c => c.1.height).foldr max 0 + 1
termination_by sizeOf n
decreasing_by exact Node.sizeOf_lt_of_mem_children c.2

namespace Node

variable {n : Node} {m : Nat}

theorem height_eq (n : Node) : n.height = (n.children.map height).foldr max 0 + 1 := by
  rw [height, List.attach_map_val]

theorem foldr_max_le_iff {ms : List Nat} : ms.foldr max 0 ≤ m ↔ ∀ i ∈ ms, i ≤ m := by
  induction ms with
  | nil => simp
  | cons i rest ih => rw [List.foldr_cons, Nat.max_le, ih, List.forall_mem_cons]

/-- A node is as low as its children allow. -/
theorem height_le_succ_iff : n.height ≤ m + 1 ↔ ∀ c ∈ n.children, c.height ≤ m := by
  rw [height_eq, Nat.add_le_add_iff_right, foldr_max_le_iff, List.forall_mem_map]

/-- The bound of a node from a smaller one of its children. -/
theorem height_le (h : ∀ c ∈ n.children, c.height ≤ m) {bound : Nat} (hm : m < bound) :
    n.height ≤ bound :=
  Nat.le_trans (height_le_succ_iff.mpr h) hm

end Node

theorem height_identifier (i : Identifier) : i.node.height = 1 := by
  rw [Node.height_eq]
  rfl

theorem height_identifier_le (i : Identifier) {m : Nat} (hm : 0 < m) : i.node.height ≤ m := by
  rwa [height_identifier]

theorem height_primitiveType (token : SyntaxToken) :
    (Expression.primitiveType token).node.height = 1 := by
  rw [Node.height_eq]
  rfl

namespace Lowering

theorem height_arrayOf (element : Expression) (closing : RawNode) :
    (arrayOf element closing).node.height = element.node.height + 1 := by
  rw [Node.height_eq]
  show max element.node.height 0 + 1 = _
  rw [Nat.max_zero]

/-- Each pair of brackets adds one to the height of a type. -/
theorem height_foldl_arrayOf (closings : List RawNode) (element : Expression) :
    (closings.foldl arrayOf element).node.height = element.node.height + closings.length := by
  induction closings generalizing element with
  | nil => rfl
  | cons closing rest ih =>
    rw [List.foldl_cons, ih, height_arrayOf, List.length_cons]
    omega

end Lowering

end JavaSyntax
