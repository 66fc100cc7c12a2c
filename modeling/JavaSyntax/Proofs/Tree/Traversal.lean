import JavaSyntax.Tree.Part
import JavaSyntax.Tree.Traversal

/-!
# Traversal is pre-order — what the iterator and visitors see of a tree

The iterator over descendants keeps a stack of siblings that are still to come, and pre-order is a
recursion. What ties them is the list of nodes that a stack has yet to yield: the pre-orders of all
that is pending, the deepest siblings first. A call takes the first node off that list, and the call at
its end leaves nothing behind, so the iterator stays at its end.

* `Descendants.answer_eq`: the answers to all calls, as often as one asks;
* `Descendants.fold_eq`: a run to the end is a fold over the nodes to come;
* `Visitor.noting`: a visitor that notes which of its entries are called, with which node;
* `traversal_exact`: iterator and visitors see each node of a tree once, in pre-order.
-/

namespace JavaSyntax

/-- What holds of all nodes of a tree holds of the root and of all nodes below its children. -/
theorem Node.forall_mem_preorder {n : Node} {P : Node → Prop} :
    (∀ m ∈ n.preorder, P m) ↔ P n ∧ ∀ c ∈ n.children, ∀ m ∈ c.preorder, P m := by
  rw [preorder_eq, List.forall_mem_cons]
  refine and_congr_right' ⟨fun h c hc m hm => h m (List.mem_flatMap.mpr ⟨c, hc, hm⟩), ?_⟩
  intro h m hm
  obtain ⟨c, hc, hm⟩ := List.mem_flatMap.mp hm
  exact h c hc m hm

/-! ## The iterator -/

namespace Descendants

/-- A call of the iterator: its answer, and the iterator after it. At the end nothing is pending. -/
def call (d : Descendants) : Option Node × Descendants :=
  match d.next with
  | some (n, rest) => (some n, rest)
  | none => (none, ⟨[]⟩)

/-- The iterator after a number of calls. -/
def afterCalls (d : Descendants) : Nat → Descendants
  | 0 => d
  | k + 1 => d.call.2.afterCalls k

/-- The answer to the call that follows a number of calls. -/
def answer (d : Descendants) (k : Nat) : Option Node := (d.afterCalls k).call.1

/-- The nodes that are still to come, in the order in which they come. -/
def coming (d : Descendants) : List Node := d.pending.flatten.flatMap Node.preorder

theorem coming_descendants (n : Node) : n.descendants.coming = n.preorder := by
  simp [coming, Node.descendants]

/-- Taking a node puts its children in its place, which are what comes after it in pre-order. -/
theorem coming_take {pending rest : List (List Node)} {n : Node}
    (h : take? pending = some (n, rest)) :
    (Descendants.mk pending).coming = n :: (Descendants.mk rest).coming := by
  induction pending with
  | nil => exact absurd h nofun
  | cons siblings outer ih =>
    cases siblings with
    | nil => exact ih h
    | cons m siblings =>
      simp only [take?, Option.some.injEq, Prod.mk.injEq] at h
      obtain ⟨rfl, rfl⟩ := h
      simp [coming, Node.preorder_eq m]

theorem coming_of_take?_eq_none {pending : List (List Node)} (h : take? pending = none) :
    (Descendants.mk pending).coming = [] := by
  induction pending with
  | nil => rfl
  | cons siblings outer ih =>
    cases siblings with
    | nil => exact ih h
    | cons m siblings => exact absurd h nofun

theorem coming_next {d rest : Descendants} {n : Node} (h : d.next = some (n, rest)) :
    d.coming = n :: rest.coming := by
  simp only [next, Option.map_eq_some_iff] at h
  obtain ⟨⟨m, pending⟩, taken, h⟩ := h
  rw [Prod.mk.injEq] at h
  obtain ⟨rfl, rfl⟩ := h
  exact coming_take taken

theorem coming_of_next_eq_none {d : Descendants} (h : d.next = none) : d.coming = [] :=
  coming_of_take?_eq_none (Option.map_eq_none_iff.mp h)

/-- A call answers with the first node that is to come. -/
theorem call_fst (d : Descendants) : d.call.1 = d.coming.head? := by
  unfold call
  split
  case h_1 n rest h => rw [coming_next h, List.head?_cons]
  case h_2 h => rw [coming_of_next_eq_none h, List.head?_nil]

/-- What is to come after a call is the rest. -/
theorem coming_call (d : Descendants) : d.call.2.coming = d.coming.tail := by
  unfold call
  split
  case h_1 n rest h => rw [coming_next h, List.tail_cons]
  case h_2 h =>
    rw [coming_of_next_eq_none h]
    rfl

theorem coming_afterCalls (d : Descendants) (k : Nat) :
    (d.afterCalls k).coming = d.coming.drop k := by
  induction k generalizing d with
  | zero => rfl
  | succ k ih => rw [afterCalls, ih, coming_call, List.drop_tail]

/-- The calls of an iterator answer with the nodes to come, one after the other, and with none ever
after. -/
theorem answer_eq (d : Descendants) (k : Nat) : d.answer k = d.coming[k]? := by
  rw [answer, call_fst, coming_afterCalls, List.head?_drop]

section

variable {σ : Type} (f : σ → Node → σ) (s : σ) {d rest : Descendants} {n : Node}

theorem fold_of_next_eq_none (h : d.next = none) : d.fold f s = s := by
  rw [fold]
  split
  case h_1 => rfl
  case h_2 taken => cases h.symm.trans taken

theorem fold_of_next (h : d.next = some (n, rest)) : d.fold f s = rest.fold f (f s n) := by
  rw [fold]
  split
  case h_1 taken => cases h.symm.trans taken
  case h_2 m later taken =>
    cases h.symm.trans taken
    rfl

end

/-- A run to the end meets all nodes to come, in their order. -/
theorem fold_eq {σ : Type} (f : σ → Node → σ) (s : σ) (d : Descendants) :
    d.fold f s = d.coming.foldl f s := by
  induction s, d using fold.induct f with
  | case1 s d h => rw [fold_of_next_eq_none f s h, coming_of_next_eq_none h, List.foldl_nil]
  | case2 s d n rest h fewer ih => rw [fold_of_next f s h, coming_next h, List.foldl_cons, ih]

/-- The iterator yields the nodes that are to come. -/
theorem toList_eq (d : Descendants) : d.toList = d.coming := by
  induction d using toList.induct with
  | case1 d h =>
    rw [toList, coming_of_next_eq_none h]
    split
    case h_1 => rfl
    case h_2 taken => cases h.symm.trans taken
  | case2 d n rest h fewer ih =>
    rw [toList, coming_next h, ← ih]
    split
    case h_1 taken => cases h.symm.trans taken
    case h_2 m later taken =>
      cases h.symm.trans taken
      rfl

theorem toList_descendants (n : Node) : n.descendants.toList = n.preorder := by
  rw [toList_eq, coming_descendants]

end Descendants

/-! ## Visitors -/

/-- A call of one of the entries of a visitor: that of a shape, or the common one. -/
structure Visit where
  entry : Option Shape
  node : Node

namespace Visitor

variable {σ : Type}

/-- The call that a node asks for: of the entry for its shape if the visitor has one, and of the
common entry if not. -/
def visitOf (visitor : Visitor σ) (n : Node) : Visit where
  entry := if (visitor.handler n.shape).isSome then some n.shape else none
  node := n

/-- The same visitor, which also notes each call of its entries. -/
def noting (visitor : Visitor σ) : Visitor (σ × List Visit) where
  handler shape := (visitor.handler shape).map fun handle noted n =>
    (handle noted.1 n, noted.2 ++ [⟨some shape, n⟩])
  otherwise noted n := (visitor.otherwise noted.1 n, noted.2 ++ [⟨none, n⟩])

theorem walk_eq (visitor : Visitor σ) (s : σ) (n : Node) :
    visitor.walk s n = n.preorder.foldl visitor.accept s := by
  rw [walk, Descendants.fold_eq, Descendants.coming_descendants]

/-- At each node exactly one entry is called. -/
theorem accept_noting (visitor : Visitor σ) (s : σ) (noted : List Visit) (n : Node) :
    visitor.noting.accept (s, noted) n = (visitor.accept s n, noted ++ [visitor.visitOf n]) := by
  unfold accept noting visitOf
  dsimp only
  cases visitor.handler n.shape <;> rfl

theorem foldl_noting (visitor : Visitor σ) (s : σ) (noted : List Visit) (ns : List Node) :
    ns.foldl visitor.noting.accept (s, noted) =
      (ns.foldl visitor.accept s, noted ++ ns.map visitor.visitOf) := by
  induction ns generalizing s noted with
  | nil => rw [List.map_nil, List.append_nil]; rfl
  | cons n rest ih =>
    rw [List.foldl_cons, accept_noting, ih, List.map_cons, List.append_assoc]
    rfl

end Visitor

/-! ## Whole trees -/

/-- **Traversal is pre-order and complete.** The iterator answers with the nodes of a tree in
pre-order and with none ever after. In pre-order a node is followed by all nodes that its parts hold,
one part after the other. Whatever the entries of a visitor do with its state, it is folded over the
nodes in pre-order, and each node makes it call one entry, once: that for its shape if the visitor has
one, and the common entry if not. -/
theorem traversal_exact (n : Node) :
    (∀ k, n.descendants.answer k = n.preorder[k]?) ∧
      n.preorder = n :: (n.parts.flatMap fun part => part.2.held).flatMap Node.preorder ∧
      ∀ (σ : Type) (visitor : Visitor σ) (s : σ),
        visitor.walk s n = n.preorder.foldl visitor.accept s ∧
          visitor.noting.walk (s, []) n =
            (visitor.walk s n, n.preorder.map visitor.visitOf) := by
  refine ⟨fun k => ?_, ?_, fun σ visitor s => ⟨visitor.walk_eq s n, ?_⟩⟩
  · rw [Descendants.answer_eq, Descendants.coming_descendants]
  · rw [n.nodes_parts]
    exact n.preorder_eq
  · rw [Visitor.walk_eq, Visitor.foldl_noting, Visitor.walk_eq, List.nil_append]

end JavaSyntax
