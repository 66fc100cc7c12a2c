import JavaSyntax.Proofs.Raw.Nodes

/-!
# Order — where the parts of a raw node stand

A raw tree lists the parts of a node in source order, and the grammar says in which order those stand
that it names. Both are read off the tree alone; whether the extents of the parts agree with it is a
matter of `RawNode.Regular`.

* `RawNode.orderedParts`: the parts of a node in the order of the grammar, as far as the extent of a
  typed node is made from them;
* `RawNode.Before`, `RawNode.StartsBy`, `RawNode.StopsBy`: what the order of parts says about the
  nodes inside them;
* `RawNode.Regular`: whether the extents in a raw tree nest and keep to the order.

Two orders are kept apart. That of the parts is a property of the list of parts; that of the grammar is
a table by tag (`RawNode.partsInOrder`), needed because the lookups say nothing about where a part was
found. The extent of a typed node is put together from the first and the last of several parts, and only
the table says which part is the last one that is there.
-/

namespace JavaSyntax

namespace RawNode

/-! ## Parts in the order of the grammar -/

/-- What stands before the last dot of a field access or a dotted name. -/
def qualifier? (r : RawNode) : Option RawNode :=
  match r.tag with
  | "field_access" => r.field? "object"
  | "scoped_identifier" => r.field? "scope"
  | _ => none

/-- What stands after the last dot of a field access or a dotted name. -/
def selected? (r : RawNode) : Option RawNode :=
  match r.tag with
  | "field_access" => r.field? "field"
  | "scoped_identifier" => r.field? "name"
  | _ => none

/-- The object of a field access is its qualifier. -/
theorem qualifier?_fieldAccess {r : RawNode} (tag : r.tag = "field_access") :
    r.qualifier? = r.field? "object" := by
  simp [qualifier?, tag]

/-- The field of a field access is what it selects. -/
theorem selected?_fieldAccess {r : RawNode} (tag : r.tag = "field_access") :
    r.selected? = r.field? "field" := by
  simp [selected?, tag]

/-- The scope of a dotted name is its qualifier. -/
theorem qualifier?_scopedIdentifier {r : RawNode} (tag : r.tag = "scoped_identifier") :
    r.qualifier? = r.field? "scope" := by
  simp [qualifier?, tag]

/-- The name behind the scope is what a dotted name selects. -/
theorem selected?_scopedIdentifier {r : RawNode} (tag : r.tag = "scoped_identifier") :
    r.selected? = r.field? "name" := by
  simp [selected?, tag]

/-- What is selected stands inside the node, whichever form of selection it is. -/
theorem mem_nodes_of_selected? {r p : RawNode} (h : r.selected? = some p) : p ∈ r.nodes := by
  unfold selected? at h
  split at h
  case h_3 => exact absurd h nofun
  all_goals exact mem_nodes_of_field? h

/-- The part that a node starts with by the grammar: an array type starts with its element, a class
literal and a dotted type with a type, a selection with its qualifier. -/
def lead? (r : RawNode) : Option RawNode :=
  match r.tag with
  | "array_type" => r.field? "element"
  | "scoped_type_identifier" | "class_literal" => r.namedChildren.head?
  | _ => r.qualifier?

/-- Whether the first thing in a node is a type with annotations, which typed trees leave out. -/
inductive BeginsAnnotated : RawNode → Prop where
  | here {r} (tag : r.tag = "annotated_type") : BeginsAnnotated r
  | lead {r p} (found : r.lead? = some p) (inner : BeginsAnnotated p) : BeginsAnnotated r

/-- The second of three named children. -/
def middle? (r : RawNode) : Option RawNode :=
  match r.namedChildren with
  | [_, middle, _] => some middle
  | _ => none

/-- The keywords `super` of a call that are not the object of it. -/
def innerSupers (r : RawNode) : List RawNode :=
  (r.childrenOfTag "super").filter fun keyword =>
    decide (∀ object ∈ r.field? "object", object.span ≠ keyword.span)

/-- The parts of a node of the given tag in the order of the grammar, as far as the extent of a typed
node is made from several of them. -/
def partsInOrder (r : RawNode) (tag : String) : List (List RawNode) :=
  let held (name : String) : List RawNode := (r.field? name).toList
  let modifiers := (r.childOfTag? "modifiers").toList
  match tag with
  | "field_access" => [held "object", r.middle?.toList]
  | "method_invocation" => [held "object", r.innerSupers, held "name"]
  | "explicit_constructor_invocation" =>
    [held "object", held "type_arguments", held "constructor", held "arguments"]
  | "class_literal" => [r.namedChildren.head?.toList, (r.findToken? "class").toList]
  | "import_declaration" =>
    [(r.namedChildren.find? fun child => child.tag != "asterisk").toList,
     (r.childOfTag? "asterisk").toList]
  | "array_type" => [held "element", held "dimensions"]
  | "array_creation_expression" => [held "type", r.fields "dimensions"]
  | "field_declaration" | "constant_declaration" | "local_variable_declaration" =>
    [modifiers, held "type", r.fields "declarator"]
  | "formal_parameter" | "resource" | "enhanced_for_statement" =>
    [modifiers, held "type", held "name", held "dimensions", held "value"]
  | "spread_parameter" =>
    [(r.namedChildren.find? fun child =>
        child.tag != "modifiers" && child.tag != "variable_declarator").toList,
     (r.findToken? "...").toList, (r.childOfTag? "variable_declarator").toList]
  | "method_declaration" | "constructor_declaration" | "annotation_type_element_declaration" =>
    [held "type", held "dimensions"]
  | _ => []

/-- The parts of a node in the order of the grammar, by its own tag. -/
def orderedParts (r : RawNode) : List (List RawNode) := r.partsInOrder r.tag

/-- A part that may be absent, as a list of at most one part. -/
theorem toList_subset_parts {r : RawNode} {part : Option RawNode}
    (found : ∀ p, part = some p → p ∈ r.parts) : part.toList ⊆ r.parts :=
  fun p hp => found p (Option.mem_toList.mp hp)

/-- The second of three named children is one of them. -/
theorem mem_namedChildren_of_middle? {r p : RawNode} (h : r.middle? = some p) :
    p ∈ r.namedChildren := by
  unfold middle? at h
  split at h
  case h_1 first middle last named =>
    rw [named, ← Option.some.inj h]
    exact List.mem_cons_of_mem _ List.mem_cons_self
  case h_2 => exact absurd h nofun

/-- What the grammar puts in order are parts of the node. -/
theorem orderedParts_subset_parts (r : RawNode) : ∀ group ∈ r.orderedParts, group ⊆ r.parts := by
  have held (name : String) : (r.field? name).toList ⊆ r.parts :=
    toList_subset_parts fun _ => mem_parts_of_field?
  have tagged (tag : String) : (r.childOfTag? tag).toList ⊆ r.parts :=
    toList_subset_parts fun _ => mem_parts_of_childOfTag?
  have token (tag : String) : (r.findToken? tag).toList ⊆ r.parts :=
    toList_subset_parts fun _ => mem_parts_of_findToken?
  have named (test : RawNode → Bool) : (r.namedChildren.find? test).toList ⊆ r.parts :=
    toList_subset_parts fun _ h => r.namedChildren_subset_parts (List.mem_of_find?_eq_some h)
  have head : r.namedChildren.head?.toList ⊆ r.parts :=
    toList_subset_parts fun _ h => r.namedChildren_subset_parts (List.mem_of_head? h)
  have middle : r.middle?.toList ⊆ r.parts :=
    toList_subset_parts fun _ h => r.namedChildren_subset_parts (mem_namedChildren_of_middle? h)
  have supers : r.innerSupers ⊆ r.parts :=
    List.Subset.trans List.filter_sublist.subset (r.childrenOfTag_subset_parts "super")
  unfold orderedParts partsInOrder
  dsimp only
  split
  all_goals
    simp only [List.forall_mem_cons, held, tagged, token, named, head, middle, supers,
      fields_subset_parts, true_and, List.not_mem_nil, false_implies, implies_true]

/-! ## One part before another -/

variable {root r a b c x y : RawNode}

/-- Whether one part of a node comes before another, in source order or by the grammar. -/
def Orders (r a b : RawNode) : Prop :=
  [a, b].Sublist r.parts ∨
    ∃ i j, i < j ∧ a ∈ r.orderedParts.getD i [] ∧ b ∈ r.orderedParts.getD j []

/-- A group that is looked up by its place and is not empty stands at that place. -/
theorem exists_of_mem_getD {groups : List (List RawNode)} {i : Nat} (h : a ∈ groups.getD i []) :
    ∃ hi : i < groups.length, a ∈ groups[i] := by
  rw [List.getD_eq_getElem?_getD] at h
  rcases Nat.lt_or_ge i groups.length with hi | hi
  · rw [List.getElem?_eq_getElem hi] at h
    exact ⟨hi, h⟩
  · rw [List.getElem?_eq_none hi] at h
    exact absurd h List.not_mem_nil

/-- The members of a group are parts of the node. -/
theorem mem_parts_of_mem_getD {i : Nat} (h : a ∈ r.orderedParts.getD i []) : a ∈ r.parts := by
  obtain ⟨hi, ha⟩ := exists_of_mem_getD h
  exact r.orderedParts_subset_parts _ (List.getElem_mem hi) ha

/-- What comes in an order is a part, on either side. -/
theorem Orders.mem_parts (h : r.Orders a b) : a ∈ r.parts ∧ b ∈ r.parts := by
  rcases h with order | ⟨i, j, -, ha, hb⟩
  · have both := order.subset
    rw [List.cons_subset, List.cons_subset] at both
    exact ⟨both.1, both.2.1⟩
  · exact ⟨mem_parts_of_mem_getD ha, mem_parts_of_mem_getD hb⟩

/-- Whether one node of `root` lies before another: some node of `root` has them in parts of it that
come in that order. -/
def Before (root x y : RawNode) : Prop :=
  ∃ r ∈ root.nodes, ∃ a b, r.Orders a b ∧ x ∈ a.nodes ∧ y ∈ b.nodes

/-- Whether one node of `root` starts no later than another, since it holds it or lies before it. -/
def StartsBy (root x y : RawNode) : Prop := x ∈ root.nodes ∧ y ∈ x.nodes ∨ root.Before x y

/-- Whether one node of `root` stops no later than another, since it is held by it or lies before
it. -/
def StopsBy (root x y : RawNode) : Prop := y ∈ root.nodes ∧ x ∈ y.nodes ∨ root.Before x y

/-- Parts of a node lie one before the other in any tree that has the node. -/
theorem Orders.before (h : r.Orders a b) (hr : r ∈ root.nodes) : root.Before a b :=
  ⟨r, hr, a, b, h, mem_nodes_self a, mem_nodes_self b⟩

/-- Parts from two places in the order of the grammar. -/
theorem Before.of_tag {tag : String} (h : r.tag = tag) (hr : r ∈ root.nodes) {i j : Nat}
    (ha : a ∈ (r.partsInOrder tag).getD i []) (hb : b ∈ (r.partsInOrder tag).getD j [])
    (hij : i < j) : root.Before a b := by
  subst h
  exact Orders.before (.inr ⟨i, j, hij, ha, hb⟩) hr

/-- A part that is there is the one member of its list. -/
theorem mem_toList {part : Option RawNode} (h : part = some a) : a ∈ part.toList :=
  Option.mem_toList.mpr h

namespace Before

/-- What is inside two nodes stands in the same order. -/
theorem inside (h : root.Before a b) (hx : x ∈ a.nodes) (hy : y ∈ b.nodes) : root.Before x y := by
  obtain ⟨r, hr, a', b', order, ha, hb⟩ := h
  exact ⟨r, hr, a', b', order, mem_nodes_trans ha hx, mem_nodes_trans hb hy⟩

/-- What lies before something is in the tree. -/
theorem mem_left (h : root.Before a b) : a ∈ root.nodes := by
  obtain ⟨r, hr, a', b', order, ha, -⟩ := h
  exact mem_nodes_trans (mem_nodes_trans hr (r.parts_subset_nodes order.mem_parts.1)) ha

/-- So is what lies behind something. -/
theorem mem_right (h : root.Before a b) : b ∈ root.nodes := by
  obtain ⟨r, hr, a', b', order, -, hb⟩ := h
  exact mem_nodes_trans (mem_nodes_trans hr (r.parts_subset_nodes order.mem_parts.2)) hb

end Before

/-- What starts no later is in the tree. -/
theorem StartsBy.mem_left (h : root.StartsBy x y) : x ∈ root.nodes := by
  rcases h with ⟨hx, -⟩ | h
  · exact hx
  · exact h.mem_left

/-- So is what starts no earlier. -/
theorem StartsBy.mem_right (h : root.StartsBy x y) : y ∈ root.nodes := by
  rcases h with ⟨hx, hy⟩ | h
  · exact mem_nodes_trans hx hy
  · exact h.mem_right

/-- A node starts no later than itself. -/
theorem startsBy_self (hx : x ∈ root.nodes) : root.StartsBy x x := .inl ⟨hx, x.mem_nodes_self⟩

/-- A node stops no later than itself. -/
theorem stopsBy_self (hx : x ∈ root.nodes) : root.StopsBy x x := .inl ⟨hx, x.mem_nodes_self⟩

/-- What is inside a node stops no later than the node. -/
theorem StopsBy.inside (h : root.StopsBy x y) (ha : a ∈ x.nodes) : root.StopsBy a y := by
  rcases h with ⟨hy, hx⟩ | h
  · exact .inl ⟨hy, mem_nodes_trans hx ha⟩
  · exact .inr (h.inside ha y.mem_nodes_self)

/-- Parts that are listed in source order come in that order. -/
theorem pairwise_before_of_sublist (hr : r ∈ root.nodes) {ps : List RawNode}
    (h : ps.Sublist r.parts) : ps.Pairwise root.Before :=
  List.pairwise_iff_forall_sublist.mpr fun order => Orders.before (.inl (order.trans h)) hr

/-! ## Extents in order -/

/-- Whether the extent of a node agrees with the order of its parts: they lie within it, one after
the other, and so do those that the grammar puts in order; what it starts and ends with reaches to
its start and its end; and its qualifier has no annotations. -/
structure Regular (r : RawNode) : Prop where
  proper : r.label.startByte ≤ r.label.stopByte
  within : ∀ p ∈ r.parts,
    r.label.startByte ≤ p.label.startByte ∧ p.label.stopByte ≤ r.label.stopByte
  apart : r.parts.Pairwise fun p q => p.label.stopByte ≤ q.label.startByte
  ordered : r.orderedParts.Pairwise fun ps qs =>
    ∀ p ∈ ps, ∀ q ∈ qs, p.label.stopByte ≤ q.label.startByte
  starts : ∀ p ∈ r.lead?, p.label.startByte = r.label.startByte ∧ p.label.start = r.label.start
  stops : ∀ p ∈ r.selected?, p.label.stopByte = r.label.stopByte ∧ p.label.stop = r.label.stop
  plain : ∀ p ∈ r.qualifier?, ¬ p.BeginsAnnotated

/-- Whether the extents in a raw tree nest and keep to the order of the source and the grammar. -/
def Ordered (root : RawNode) : Prop := ∀ r ∈ root.nodes, r.Regular

/-- Whether the parts of a node lie within it, one after the other. -/
structure Nested (r : RawNode) : Prop where
  proper : r.label.startByte ≤ r.label.stopByte
  within : ∀ p ∈ r.parts,
    r.label.startByte ≤ p.label.startByte ∧ p.label.stopByte ≤ r.label.stopByte
  apart : r.parts.Pairwise fun p q => p.label.stopByte ≤ q.label.startByte

/-- In a tree in which extents nest, a node lies within all nodes that hold it. -/
theorem within_of_nested (nested : ∀ r ∈ root.nodes, r.Nested) (hr : r ∈ root.nodes)
    (hx : x ∈ r.nodes) :
    r.label.startByte ≤ x.label.startByte ∧ x.label.stopByte ≤ r.label.stopByte := by
  induction r using inductionOnParts with
  | node r ih =>
    rw [nodes_eq] at hx
    rcases List.mem_cons.mp hx with rfl | hx
    · exact ⟨Nat.le_refl _, Nat.le_refl _⟩
    -- the part that holds `x` lies within `r`, and `x` within that part
    · obtain ⟨p, hp, hx⟩ := List.mem_flatMap.mp hx
      have part := (nested r hr).within p hp
      have inner := ih p hp (mem_nodes_trans hr (r.parts_subset_nodes hp)) hx
      exact ⟨Nat.le_trans part.1 inner.1, Nat.le_trans inner.2 part.2⟩

namespace Regular

/-- Without the grammar, extents nest. -/
theorem nested (regular : r.Regular) : r.Nested :=
  ⟨regular.proper, regular.within, regular.apart⟩

/-- Whichever of the two orders parts come in, the earlier one stops before the later one starts. -/
theorem le_of_orders (regular : r.Regular) (h : r.Orders a b) :
    a.label.stopByte ≤ b.label.startByte := by
  rcases h with order | ⟨i, j, hij, ha, hb⟩
  -- in the order of the source
  · have pair := regular.apart.sublist order
    exact List.rel_of_pairwise_cons pair List.mem_cons_self
  -- in the order of the grammar
  · obtain ⟨hi, ha⟩ := exists_of_mem_getD ha
    obtain ⟨hj, hb⟩ := exists_of_mem_getD hb
    exact List.pairwise_iff_getElem.mp regular.ordered i j hi hj hij a ha b hb

end Regular

namespace Ordered

variable (ordered : root.Ordered)

include ordered

/-- A node lies within those that hold it. -/
theorem within (hr : r ∈ root.nodes) (hx : x ∈ r.nodes) :
    r.label.startByte ≤ x.label.startByte ∧ x.label.stopByte ≤ r.label.stopByte :=
  within_of_nested (fun r hr => (ordered r hr).nested) hr hx

/-- What lies before a node stops before the node starts, since the parts that hold the two do. -/
theorem le_of_before (h : root.Before x y) : x.label.stopByte ≤ y.label.startByte := by
  obtain ⟨r, hr, a, b, order, hx, hy⟩ := h
  have ha := mem_nodes_trans hr (r.parts_subset_nodes order.mem_parts.1)
  have hb := mem_nodes_trans hr (r.parts_subset_nodes order.mem_parts.2)
  calc x.label.stopByte ≤ a.label.stopByte := (ordered.within ha hx).2
    _ ≤ b.label.startByte := (ordered r hr).le_of_orders order
    _ ≤ y.label.startByte := (ordered.within hb hy).1

/-- The order of starts, which `StartsBy` is named for. -/
theorem le_of_startsBy (h : root.StartsBy x y) : x.label.startByte ≤ y.label.startByte := by
  rcases h with ⟨hx, hy⟩ | h
  · exact (ordered.within hx hy).1
  · exact Nat.le_trans (ordered x h.mem_left).proper (ordered.le_of_before h)

/-- The order of stops, which `StopsBy` is named for. -/
theorem le_of_stopsBy (h : root.StopsBy x y) : x.label.stopByte ≤ y.label.stopByte := by
  rcases h with ⟨hy, hx⟩ | h
  · exact (ordered.within hy hx).2
  · exact Nat.le_trans (ordered.le_of_before h) (ordered y h.mem_right).proper

end Ordered

end RawNode

end JavaSyntax
