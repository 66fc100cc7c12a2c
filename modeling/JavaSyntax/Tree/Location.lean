import JavaSyntax.Tree.Node

/-!
# Locations — nodes with their place in one tree

Two nodes of a tree may look the same. A location tells them apart by the way that leads to them
from the root: the index of a child at each step.
-/

namespace JavaSyntax

/-- A node of a tree, and the indices of children that lead to it from the root. -/
structure Location where
  path : List Nat
  node : Node

namespace Location

def root (n : Node) : Location := ⟨[], n⟩

/-- Whether two locations in one tree are the same node. -/
def isSame (a b : Location) : Bool := a.path == b.path

def children (l : Location) : List Location :=
  l.node.children.zipIdx.map fun c => ⟨l.path ++ [c.2], c.1⟩

theorem sizeOf_lt_of_mem_children {l c : Location} (h : c ∈ l.children) :
    sizeOf c.node < sizeOf l.node := by
  simp only [children, List.mem_map] at h
  obtain ⟨⟨n, i⟩, hn, rfl⟩ := h
  exact Node.sizeOf_lt_of_mem_children (List.mem_of_getElem? (List.mem_zipIdx_iff_getElem?.1 hn))

/-- A location and all below it, in pre-order. -/
def preorder (l : Location) : List Location :=
  l :: l.children.attach.flatMap fun c => c.1.preorder
termination_by sizeOf l.node
decreasing_by exact sizeOf_lt_of_mem_children c.2

end Location

end JavaSyntax
