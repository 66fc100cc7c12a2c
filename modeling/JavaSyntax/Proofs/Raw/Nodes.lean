import JavaSyntax.Raw.Basic

/-!
# Nodes of raw trees — what a node reaches and what it encloses

Two closures of a raw tree are used. `RawNode.reachable` goes through children, so it leaves out
comments; damage is looked for there. `RawNode.nodes` goes through all parts; fields are looked up
there, and everything that a lowering reads of a node is enclosed by it.

* `RawNode.reachable_eq`, `RawNode.nodes_eq`: a node comes first, then what its children (parts)
  reach (consist of), in their order;
* `RawNode.Encloses`: the nodes strictly inside a node, which are fewer than the nodes of it;
* the parts that the lookups of `JavaSyntax.Raw.Basic` find are parts of the node.

A lowering is given fewer nodes at every step, and this is where they are counted: what a node encloses
has fewer nodes than the node (`RawNode.Encloses.length_nodes_lt`), and each lookup finds something
enclosed. The bound on the room that a lowering needs is read off these two facts.
-/

namespace JavaSyntax

namespace RawNode

variable {r p q s : RawNode}

/-- Induction on a raw tree: what holds of a node as soon as it holds of its parts holds of all. -/
theorem inductionOnParts {motive : RawNode → Prop}
    (node : ∀ r, (∀ p ∈ r.parts, motive p) → motive r) (r : RawNode) : motive r :=
  node r fun p _ => inductionOnParts node p
termination_by sizeOf r
decreasing_by
  obtain ⟨label, parts⟩ := r
  have := List.sizeOf_lt_of_mem ‹p ∈ _›
  simp only [RawNode.parts, RawNode.node.sizeOf_spec] at this ⊢
  omega

/-! ## Reachable nodes -/

mutual

/-- Which nodes are listed does not depend on the depth from which they are counted. -/
theorem map_snd_levels (d e : Nat) : (r : RawNode) →
    (r.levels d).map Prod.snd = (r.levels e).map Prod.snd
  | node label parts => by
    rw [levels, levels, List.map_cons, List.map_cons, map_snd_levelsIn (d + 1) (e + 1) parts]

/-- The same for the parts of a node, whose extras are skipped on both sides. -/
theorem map_snd_levelsIn (d e : Nat) : (rs : List RawNode) →
    (levelsIn d rs).map Prod.snd = (levelsIn e rs).map Prod.snd
  | [] => rfl
  | part :: rest => by
    rw [levelsIn, levelsIn, List.map_append, List.map_append, map_snd_levelsIn d e rest]
    split
    · rw [map_snd_levels d e part]
    · rfl

end

/-- The nodes listed for some parts are those that the kept ones reach. -/
theorem map_snd_levelsIn_eq (d : Nat) (rs : List RawNode) :
    (levelsIn d rs).map Prod.snd = (rs.filter isKept).flatMap reachable := by
  induction rs with
  | nil => rfl
  | cons part rest ih =>
    rw [levelsIn, List.map_append, ih, List.filter_cons]
    split
    · rw [List.flatMap_cons, map_snd_levels d 0 part, reachable]
    · rfl

/-- A node comes first, then what its children reach, in their order. -/
theorem reachable_eq (r : RawNode) : r.reachable = r :: r.children.flatMap reachable := by
  obtain ⟨label, parts⟩ := r
  rw [reachable, levels, List.map_cons, map_snd_levelsIn_eq]
  rfl

/-- A node reaches itself. -/
theorem mem_reachable_self (r : RawNode) : r ∈ r.reachable := by
  rw [reachable_eq]
  exact List.mem_cons_self

/-- What a child reaches is reached from the node. -/
theorem mem_reachable_of_child (hp : p ∈ r.children) (hq : q ∈ p.reachable) :
    q ∈ r.reachable := by
  rw [reachable_eq]
  exact List.mem_cons_of_mem r (List.mem_flatMap.mpr ⟨p, hp, hq⟩)

/-! ## All nodes -/

/-- The nodes of several parts, one part after the other. -/
theorem nodesIn_eq_flatMap (rs : List RawNode) : nodesIn rs = rs.flatMap nodes := by
  induction rs with
  | nil => rfl
  | cons r rest ih => rw [nodesIn, ih, List.flatMap_cons]

/-- A node comes first, then the nodes of its parts, in their order. -/
theorem nodes_eq (r : RawNode) : r.nodes = r :: r.parts.flatMap nodes := by
  obtain ⟨label, parts⟩ := r
  rw [nodes, nodesIn_eq_flatMap]
  rfl

/-- A node is one of its own nodes. -/
theorem mem_nodes_self (r : RawNode) : r ∈ r.nodes := by
  rw [nodes_eq]
  exact List.mem_cons_self

/-- The nodes of a part are nodes of the whole. -/
theorem mem_nodes_of_part (hp : p ∈ r.parts) (hq : q ∈ p.nodes) : q ∈ r.nodes := by
  rw [nodes_eq]
  exact List.mem_cons_of_mem r (List.mem_flatMap.mpr ⟨p, hp, hq⟩)

/-- The nodes of an inner node are nodes of the whole. The induction goes down to the inner node. -/
theorem mem_nodes_trans (hq : q ∈ r.nodes) (hs : s ∈ q.nodes) : s ∈ r.nodes := by
  induction r using inductionOnParts with
  | node r ih =>
    rw [nodes_eq] at hq
    rcases List.mem_cons.mp hq with rfl | hq
    · exact hs
    · obtain ⟨p, hp, hq⟩ := List.mem_flatMap.mp hq
      exact mem_nodes_of_part hp (ih p hp hq)

/-! ## Enclosed nodes -/

/-- Whether a node lies strictly inside another. -/
def Encloses (r q : RawNode) : Prop := ∃ p ∈ r.parts, q ∈ p.nodes

/-- A part is enclosed by its node. -/
theorem encloses_of_part (hp : p ∈ r.parts) : r.Encloses p := ⟨p, hp, mem_nodes_self p⟩

/-- What is strictly inside a node is one of its nodes. -/
theorem Encloses.mem_nodes (h : r.Encloses q) : q ∈ r.nodes := by
  obtain ⟨p, hp, hq⟩ := h
  exact mem_nodes_of_part hp hq

/-- A node encloses all nodes of what it encloses. -/
theorem Encloses.of_mem_nodes (h : r.Encloses q) (hs : s ∈ q.nodes) : r.Encloses s := by
  obtain ⟨p, hp, hq⟩ := h
  exact ⟨p, hp, mem_nodes_trans hq hs⟩

/-- To be strictly inside is transitive. -/
theorem Encloses.trans (h : r.Encloses q) (h' : q.Encloses s) : r.Encloses s :=
  h.of_mem_nodes h'.mem_nodes

/-- A node encloses the parts of what it encloses. -/
theorem Encloses.part (h : r.Encloses q) (hp : p ∈ q.parts) : r.Encloses p :=
  h.trans (encloses_of_part hp)

/-- There is at least the node itself. -/
theorem length_nodes_pos (r : RawNode) : 0 < r.nodes.length := by
  rw [nodes_eq]
  exact Nat.succ_pos _

/-- A part has fewer nodes than the whole, since the whole is not among them. -/
theorem length_nodes_lt_of_part (hp : p ∈ r.parts) : p.nodes.length < r.nodes.length := by
  obtain ⟨before, after, h⟩ := List.append_of_mem hp
  rw [nodes_eq r, h]
  simp only [List.flatMap_append, List.flatMap_cons, List.length_cons, List.length_append]
  omega

/-- Parts are not more than their nodes. -/
theorem length_le_flatMap_nodes (rs : List RawNode) : rs.length ≤ (rs.flatMap nodes).length := by
  induction rs with
  | nil => exact Nat.le_refl 0
  | cons r rest ih =>
    have := r.length_nodes_pos
    rw [List.flatMap_cons, List.length_append, List.length_cons]
    omega

/-- Parts are not more than the nodes of the whole. -/
theorem length_parts_le (r : RawNode) : r.parts.length ≤ r.nodes.length := by
  rw [nodes_eq]
  exact Nat.le_succ_of_le (length_le_flatMap_nodes r.parts)

/-- An inner node has no more nodes than the whole. -/
theorem length_nodes_le_of_mem (hq : q ∈ r.nodes) : q.nodes.length ≤ r.nodes.length := by
  induction r using inductionOnParts with
  | node r ih =>
    rw [nodes_eq] at hq
    rcases List.mem_cons.mp hq with rfl | hq
    · exact Nat.le_refl _
    · obtain ⟨p, hp, hq⟩ := List.mem_flatMap.mp hq
      exact Nat.le_of_lt (Nat.lt_of_le_of_lt (ih p hp hq) (length_nodes_lt_of_part hp))

/-- An enclosed node is made of fewer nodes. -/
theorem Encloses.length_nodes_lt (h : r.Encloses q) : q.nodes.length < r.nodes.length := by
  obtain ⟨p, hp, hq⟩ := h
  exact Nat.lt_of_le_of_lt (length_nodes_le_of_mem hq) (length_nodes_lt_of_part hp)

/-! ## Lookups find parts

A lookup filters the parts of a node or searches among them: children are parts that are no extras, named
children and tokens are children, and a search returns what it has found in one of these lists.
-/

theorem children_subset_parts (r : RawNode) : r.children ⊆ r.parts := List.filter_sublist.subset

theorem namedChildren_sublist_parts (r : RawNode) : r.namedChildren.Sublist r.parts :=
  List.filter_sublist.trans List.filter_sublist

theorem namedChildren_subset_parts (r : RawNode) : r.namedChildren ⊆ r.parts :=
  r.namedChildren_sublist_parts.subset

theorem tokens_subset_parts (r : RawNode) : r.tokens ⊆ r.parts :=
  List.Subset.trans List.filter_sublist.subset r.children_subset_parts

theorem childrenOfTag_subset_parts (r : RawNode) (tag : String) : r.childrenOfTag tag ⊆ r.parts :=
  List.Subset.trans List.filter_sublist.subset r.namedChildren_subset_parts

theorem fields_subset_parts (r : RawNode) (name : String) : r.fields name ⊆ r.parts :=
  List.filter_sublist.subset

theorem mem_parts_of_field? {name : String} (h : r.field? name = some p) : p ∈ r.parts :=
  List.mem_of_find?_eq_some h

theorem mem_namedChildren_of_childOfTag? {tag : String} (h : r.childOfTag? tag = some p) :
    p ∈ r.namedChildren :=
  List.mem_of_find?_eq_some h

theorem mem_parts_of_childOfTag? {tag : String} (h : r.childOfTag? tag = some p) : p ∈ r.parts :=
  r.namedChildren_subset_parts (mem_namedChildren_of_childOfTag? h)

theorem mem_tokens_of_findToken? {tag : String} (h : r.findToken? tag = some p) : p ∈ r.tokens :=
  List.mem_of_find?_eq_some h

theorem mem_parts_of_findToken? {tag : String} (h : r.findToken? tag = some p) : p ∈ r.parts :=
  r.tokens_subset_parts (mem_tokens_of_findToken? h)

/-! ## Lookups find nodes

The same lookups, with the result as a node of the whole. It is stated for each lookup once, so that a
proof about a lowering names the lookup and nothing else.
-/

theorem parts_subset_nodes (r : RawNode) : r.parts ⊆ r.nodes :=
  fun _ hp => (encloses_of_part hp).mem_nodes

theorem children_subset_nodes (r : RawNode) : r.children ⊆ r.nodes :=
  List.Subset.trans r.children_subset_parts r.parts_subset_nodes

theorem namedChildren_subset_nodes (r : RawNode) : r.namedChildren ⊆ r.nodes :=
  List.Subset.trans r.namedChildren_subset_parts r.parts_subset_nodes

theorem fields_subset_nodes (r : RawNode) (name : String) : r.fields name ⊆ r.nodes :=
  List.Subset.trans (r.fields_subset_parts name) r.parts_subset_nodes

theorem childrenOfTag_subset_nodes (r : RawNode) (tag : String) : r.childrenOfTag tag ⊆ r.nodes :=
  List.Subset.trans (r.childrenOfTag_subset_parts tag) r.parts_subset_nodes

theorem mem_nodes_of_field? {name : String} (h : r.field? name = some p) : p ∈ r.nodes :=
  r.parts_subset_nodes (mem_parts_of_field? h)

theorem mem_nodes_of_childOfTag? {tag : String} (h : r.childOfTag? tag = some p) : p ∈ r.nodes :=
  r.parts_subset_nodes (mem_parts_of_childOfTag? h)

theorem mem_nodes_of_findToken? {tag : String} (h : r.findToken? tag = some p) : p ∈ r.nodes :=
  r.parts_subset_nodes (mem_parts_of_findToken? h)

/-! ### Parts of a node of a tree

A node that has been found somewhere in `root` is looked into again. Whatever is found there is in `root`
as well.
-/

section

variable {root : RawNode} (hr : r ∈ root.nodes)

include hr

/-- A named child of an inner node. -/
theorem inner_of_namedChildren (h : p ∈ r.namedChildren) : p ∈ root.nodes :=
  mem_nodes_trans hr (r.namedChildren_subset_nodes h)

/-- A part of an inner node that is held under a name. -/
theorem inner_of_field? {name : String} (h : r.field? name = some p) : p ∈ root.nodes :=
  mem_nodes_trans hr (mem_nodes_of_field? h)

/-- A named child of a tag of an inner node. -/
theorem inner_of_childOfTag? {tag : String} (h : r.childOfTag? tag = some p) : p ∈ root.nodes :=
  mem_nodes_trans hr (mem_nodes_of_childOfTag? h)

/-- A token of an inner node. -/
theorem inner_of_findToken? {tag : String} (h : r.findToken? tag = some p) : p ∈ root.nodes :=
  mem_nodes_trans hr (mem_nodes_of_findToken? h)

end

/-! ## Samples -/

/-- A node of a source that is one line long and has no marks of error recovery. -/
def onLine (tag : String) (isNamed : Bool) (field : Option String) (first last : Nat)
    (parts : List RawNode) : RawNode :=
  .node ⟨tag, isNamed, false, false, false, false, field, first, last, ⟨0, first⟩, ⟨0, last⟩⟩ parts

/-- A node of any source that has no marks of error recovery. -/
def ofSource (source : String) (tag : String) (isNamed : Bool) (field : Option String)
    (first last : Nat) (parts : List RawNode) : RawNode :=
  .node ⟨tag, isNamed, false, false, false, false, field, first, last,
    Source.lineCol source first, Source.lineCol source last⟩ parts

end RawNode

end JavaSyntax
