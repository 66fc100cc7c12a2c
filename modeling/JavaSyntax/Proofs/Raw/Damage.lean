import JavaSyntax.Raw.Damage
import JavaSyntax.Proofs.Raw.Nodes
import Mathlib.Data.List.Basic

/-!
# Damage — what the two searches find

The searches of `JavaSyntax.Raw.Damage` work off a list of pending nodes and skip a node that does
not say that it contains errors. Here each is turned into a recursion over the tree, and then
compared with the nodes that the root reaches: as long as the flags are set above all damage
(`RawNode.FlaggedBelow`), nothing is skipped that matters.

* `RawNode.damage_eq`, `RawNode.firstError?_eq`: a search of a node in terms of those of its
  children;
* `RawNode.damage_ne_nil`: damage that is reached is found;
* `RawNode.mem_nodes_of_firstError?`, `RawNode.firstError?_eq_find?`: the first error found is a
  node, and the first in pre-order.
-/

namespace JavaSyntax

namespace RawNode

variable {r : RawNode}

/-- Whether the node is a mark of error recovery: skipped text, or a supplied token. -/
def isDamaged (r : RawNode) : Bool := r.isError || r.isMissing

/-- Whether every node that is reached from `r` and has damage strictly below it says so. -/
def FlaggedBelow (r : RawNode) : Prop :=
  ∀ q ∈ r.reachable, ∀ c ∈ q.children, ∀ d ∈ c.reachable, d.isDamaged → q.containsErrors

/-- The assumption on the flags is one on every node, so it is inherited. -/
theorem FlaggedBelow.child {c : RawNode} (h : r.FlaggedBelow) (hc : c ∈ r.children) :
    c.FlaggedBelow :=
  fun q hq => h q (mem_reachable_of_child hc hq)

/-- A node that does not say that it contains errors has no damage below it. -/
theorem FlaggedBelow.eq_false {c d : RawNode} (h : r.FlaggedBelow)
    (hr : r.containsErrors = false) (hc : c ∈ r.children) (hd : d ∈ c.reachable) :
    d.isDamaged = false := by
  rw [← Bool.not_eq_true]
  intro damaged
  have := h r (mem_reachable_self r) c hc d hd damaged
  rw [hr] at this
  exact absurd this Bool.false_ne_true

/-- What is no mark is no error. -/
theorem isError_eq_false_of_isDamaged (h : r.isDamaged = false) : r.isError = false := by
  rw [isDamaged, Bool.or_eq_false_iff] at h
  exact h.1

/-! ## The outermost damage -/

/-- Pending nodes are worked off in order, so the search can be cut anywhere in the list. -/
theorem damageAmong_append (rs ss : List RawNode) :
    damageAmong (rs ++ ss) = damageAmong rs ++ damageAmong ss := by
  fun_induction damageAmong rs with
  | case1 => rfl
  | case2 r pending h ih =>
    rw [List.cons_append, damageAmong, if_pos h, ih, List.cons_append]
  | case3 r pending h hr ih =>
    rw [List.cons_append, damageAmong, if_neg h, if_pos hr, ← ih, List.append_assoc]
  | case4 r pending h hr ih =>
    rw [List.cons_append, damageAmong, if_neg h, if_neg hr, ih]

/-- What is found among several nodes is what is found in each, one after the other. -/
theorem damageAmong_eq_flatMap (rs : List RawNode) : damageAmong rs = rs.flatMap damage := by
  induction rs with
  | nil => rw [damageAmong, List.flatMap_nil]
  | cons r rest ih => rw [← List.singleton_append, damageAmong_append, ih, List.flatMap_append,
      List.flatMap_singleton, damage]

/-- The damage of a node: itself, or else that of its children, if there is said to be any. -/
theorem damage_eq (r : RawNode) :
    r.damage =
      if r.isDamaged then [r]
      else if r.containsErrors then r.children.flatMap damage
      else [] := by
  have nil : damageAmong [] = [] := by rw [damageAmong]
  rw [damage, damageAmong, isDamaged, nil, List.append_nil, damageAmong_eq_flatMap]

/-- Damage that is reached is found. -/
theorem damage_ne_nil (flagged : r.FlaggedBelow) {d : RawNode} (hd : d ∈ r.reachable)
    (damaged : d.isDamaged) : r.damage ≠ [] := by
  induction r using inductionOnParts with
  | node r ih =>
    rw [damage_eq]
    by_cases hr : r.isDamaged
    · rw [if_pos hr]
      exact List.cons_ne_nil _ _
    -- the flag of `r` is set, as the damage is below it, so the search goes on to its children
    · rw [if_neg hr]
      rw [reachable_eq] at hd
      rcases List.mem_cons.mp hd with rfl | hd
      · exact absurd damaged hr
      · obtain ⟨c, hc, hd⟩ := List.mem_flatMap.mp hd
        rw [if_pos (flagged r (mem_reachable_self r) c hc d hd damaged)]
        intro none
        exact ih c (children_subset_parts r hc) (flagged.child hc) hd
          (List.flatMap_eq_nil_iff.mp none c hc)

/-! ## The first error -/

/-- The first error is in the first part of the list, or else in the second. -/
theorem firstErrorAmong?_append (rs ss : List RawNode) :
    firstErrorAmong? (rs ++ ss) = (firstErrorAmong? rs).or (firstErrorAmong? ss) := by
  fun_induction firstErrorAmong? rs with
  | case1 => rfl
  | case2 r pending h => rw [List.cons_append, firstErrorAmong?, if_pos h, Option.some_or]
  | case3 r pending h hr ih =>
    rw [List.cons_append, firstErrorAmong?, if_neg h, if_pos hr, ← ih, List.append_assoc]
  | case4 r pending h hr ih =>
    rw [List.cons_append, firstErrorAmong?, if_neg h, if_neg hr, ih]

/-- The first error among several nodes is that of the first node with one. -/
theorem firstErrorAmong?_eq_findSome? (rs : List RawNode) :
    firstErrorAmong? rs = rs.findSome? firstError? := by
  induction rs with
  | nil => rw [firstErrorAmong?, List.findSome?_nil]
  | cons r rest ih =>
    rw [← List.singleton_append, firstErrorAmong?_append, ih, List.findSome?_append,
      List.findSome?_singleton, firstError?]

/-- The first error of a node: itself, or else that of the first child that has any. -/
theorem firstError?_eq (r : RawNode) :
    r.firstError? =
      if r.isError then some r
      else if r.containsErrors then r.children.findSome? firstError?
      else none := by
  have nil : firstErrorAmong? [] = none := by rw [firstErrorAmong?]
  rw [firstError?, firstErrorAmong?, nil, List.append_nil, firstErrorAmong?_eq_findSome?]

/-- The first error found is one of the nodes, whatever the flags say. -/
theorem mem_nodes_of_firstError? {q : RawNode} (h : r.firstError? = some q) : q ∈ r.nodes := by
  induction r using inductionOnParts with
  | node r ih =>
    rw [firstError?_eq] at h
    split at h
    · rw [← Option.some.inj h]
      exact mem_nodes_self r
    · split at h
      · obtain ⟨c, hc, found⟩ := List.exists_of_findSome?_eq_some h
        exact mem_nodes_of_part (children_subset_parts r hc)
          (ih c (children_subset_parts r hc) found)
      · exact absurd h (by simp)

/-- The first error found is the first error in pre-order among all nodes that are reached. -/
theorem firstError?_eq_find? (flagged : r.FlaggedBelow) :
    r.firstError? = r.reachable.find? isError := by
  induction r using inductionOnParts with
  | node r ih =>
    rw [firstError?_eq, reachable_eq]
    by_cases hr : r.isError
    · rw [if_pos hr, List.find?_cons_of_pos hr]
    · rw [if_neg hr, List.find?_cons_of_neg hr]
      by_cases below : r.containsErrors
      · rw [if_pos below, List.find?_flatMap]
        have each : ∀ c ∈ r.children, c.firstError? = c.reachable.find? isError :=
          fun c hc => ih c (children_subset_parts r hc) (flagged.child hc)
        rw [← List.head?_filterMap, ← List.head?_filterMap, List.filterMap_congr each]
      -- without the flag nothing is searched, and there is nothing to find
      · rw [if_neg below, eq_comm, List.find?_eq_none]
        intro d hd
        obtain ⟨c, hc, hd⟩ := List.mem_flatMap.mp hd
        rw [isError_eq_false_of_isDamaged (flagged.eq_false (Bool.not_eq_true _ ▸ below) hc hd)]
        exact Bool.false_ne_true

end RawNode

end JavaSyntax
