import JavaSyntax.Tree.Node

/-!
# Traversal — pre-order, the iterator over descendants, and visitors

`Node.preorder` lists a node and all nodes below it by recursion. `Descendants` yields the same
nodes one at a time from a stack of the children still to come, and `Visitor` dispatches on the
shape of each.

* `Node.preorder_eq`: a node comes first, then the pre-orders of its children, in order;
* `Descendants.remaining_next`: each step uses up exactly one of the nodes that remain.
-/

namespace JavaSyntax

/-! ## Pre-order -/

/-- A node and all nodes below it, each before its children. -/
def Node.preorder (n : Node) : List Node :=
  n :: n.children.attach.flatMap fun c => c.1.preorder
termination_by sizeOf n
decreasing_by exact Node.sizeOf_lt_of_mem_children c.2

theorem Node.preorder_eq (n : Node) : n.preorder = n :: n.children.flatMap Node.preorder := by
  rw [Node.preorder]
  simp [List.flatMap_subtype]

/-- How many nodes a tree has. -/
def Node.size (n : Node) : Nat := n.preorder.length

/-- How many nodes several trees have together. -/
def forestSize : List Node → Nat
  | [] => 0
  | n :: rest => n.size + forestSize rest

theorem forestSize_append (ns ms : List Node) :
    forestSize (ns ++ ms) = forestSize ns + forestSize ms := by
  induction ns with
  | nil => simp [forestSize]
  | cons n rest ih => simp only [List.cons_append, forestSize, ih]; omega

theorem forestSize_eq_length (ns : List Node) :
    forestSize ns = (ns.flatMap Node.preorder).length := by
  induction ns with
  | nil => rfl
  | cons n rest ih => rw [List.flatMap_cons, List.length_append, forestSize, ih, Node.size]

theorem Node.size_eq (n : Node) : n.size = 1 + forestSize n.children := by
  rw [Node.size, Node.preorder_eq, List.length_cons, forestSize_eq_length, Nat.add_comm]

/-! ## The iterator -/

/-- An iterator over nodes: the siblings still to come at each depth, the deepest first. -/
structure Descendants where
  pending : List (List Node)

/-- Iterates over a node and all nodes below it. -/
def Node.descendants (n : Node) : Descendants := ⟨[[n]]⟩

namespace Descendants

/-- The first node that is pending, and what is pending after it: its children, then the rest. -/
def take? : List (List Node) → Option (Node × List (List Node))
  | [] => none
  | [] :: outer => take? outer
  | (n :: siblings) :: outer => some (n, n.children :: siblings :: outer)

/-- The next node and the iterator after it. -/
def next (d : Descendants) : Option (Node × Descendants) :=
  (take? d.pending).map fun taken => (taken.1, ⟨taken.2⟩)

/-- How many nodes are still to come. -/
def remaining (d : Descendants) : Nat := forestSize d.pending.flatten

theorem remaining_take {pending rest : List (List Node)} {n : Node}
    (h : take? pending = some (n, rest)) :
    (Descendants.mk pending).remaining = (Descendants.mk rest).remaining + 1 := by
  induction pending with
  | nil => simp [take?] at h
  | cons siblings outer ih =>
    cases siblings with
    | nil => simpa [take?, remaining] using ih h
    | cons m siblings =>
      simp only [take?, Option.some.injEq, Prod.mk.injEq] at h
      obtain ⟨rfl, rfl⟩ := h
      simp only [remaining, List.flatten_cons, List.cons_append, forestSize, forestSize_append,
        Node.size_eq m]
      omega

/-- Each step uses up one of the remaining nodes. -/
theorem remaining_next {d rest : Descendants} {n : Node} (h : d.next = some (n, rest)) :
    d.remaining = rest.remaining + 1 := by
  simp only [next, Option.map_eq_some_iff] at h
  obtain ⟨⟨m, pending⟩, hm, h⟩ := h
  simp only [Prod.mk.injEq] at h
  obtain ⟨rfl, rfl⟩ := h
  exact remaining_take hm

/-- Runs the iterator to its end. -/
def fold {σ : Type} (f : σ → Node → σ) (s : σ) (d : Descendants) : σ :=
  match h : d.next with
  | none => s
  | some (n, rest) =>
    have : rest.remaining < d.remaining := by rw [remaining_next h]; omega
    fold f (f s n) rest
termination_by d.remaining

/-- All nodes that the iterator yields. -/
def toList (d : Descendants) : List Node :=
  match h : d.next with
  | none => []
  | some (n, rest) =>
    have : rest.remaining < d.remaining := by rw [remaining_next h]; omega
    n :: rest.toList
termination_by d.remaining

end Descendants

/-! ## Visitors -/

/-- What to do at the nodes of a tree, given and giving back a state: one entry for each shape that
is handled on its own, and one for all other nodes. -/
structure Visitor (σ : Type) where
  handler : Shape → Option (σ → Node → σ)
  otherwise : σ → Node → σ

namespace Visitor

/-- Calls the entry for the shape of a node if there is one, and the common entry if not. -/
def accept {σ : Type} (visitor : Visitor σ) (s : σ) (n : Node) : σ :=
  match visitor.handler n.shape with
  | some handle => handle s n
  | none => visitor.otherwise s n

/-- Visits a node and all nodes below it, in pre-order. -/
def walk {σ : Type} (visitor : Visitor σ) (s : σ) (n : Node) : σ :=
  n.descendants.fold visitor.accept s

end Visitor

end JavaSyntax
