import JavaSyntax.Proofs.Lowering.Made.Entry
import JavaSyntax.Proofs.Tree.Traversal

/-!
# Extent of what is built — spans nest

Some typed nodes have the span of their raw node, others one that is joined from the start of one part
to the stop of another. A joined span is right only if the parts stand in that order, so the extents
of the raw tree have to nest and to keep to the order of the grammar (`RawNode.Ordered`). Then every
typed node holds its children, and a selection reaches from what it selects from to the name.

* `Node.Snug`: what is right about the span of one node;
* `Fits`: where a span lies that is made from certain raw nodes, with one lemma for each way to make
  one;
* `Made.fits`: all that is made from raw nodes in order fits them and nests;
* `snug_of_build`: all nodes of a built tree are snug.
-/

namespace JavaSyntax

/-! ## Spans -/

theorem Span.contains_iff {s inner : Span} :
    s.contains inner ↔ s.startByte ≤ inner.startByte ∧ inner.stopByte ≤ s.stopByte := by
  rw [contains, Bool.and_eq_true, decide_eq_true_eq, decide_eq_true_eq]

namespace RawNode

variable {root r x y : RawNode}

/-- What is selected from is what the selection starts with. -/
theorem lead?_of_qualifier? {p : RawNode} (h : r.qualifier? = some p) : r.lead? = some p := by
  unfold lead?
  split
  case h_1 tag => simp [qualifier?, tag] at h
  case h_2 tag => simp [qualifier?, tag] at h
  case h_3 tag => simp [qualifier?, tag] at h
  case h_4 => exact h

namespace Ordered

variable (ordered : root.Ordered)

include ordered

theorem span_proper (hx : x ∈ root.nodes) : x.span.startByte ≤ x.span.stopByte :=
  narrow_le_narrow (ordered x hx).proper

theorem span_of_before (h : root.Before x y) : x.span.stopByte ≤ y.span.startByte :=
  narrow_le_narrow (ordered.le_of_before h)

theorem span_of_startsBy (h : root.StartsBy x y) : x.span.startByte ≤ y.span.startByte :=
  narrow_le_narrow (ordered.le_of_startsBy h)

theorem span_of_stopsBy (h : root.StopsBy x y) : x.span.stopByte ≤ y.span.stopByte :=
  narrow_le_narrow (ordered.le_of_stopsBy h)

/-- A node starts where the part starts that it starts with. -/
theorem span_of_lead? (hr : r ∈ root.nodes) (h : r.lead? = some x) :
    x.span.startByte = r.span.startByte ∧ x.span.start = r.span.start := by
  obtain ⟨byte, place⟩ := (ordered r hr).starts x h
  exact ⟨congrArg narrow byte, congrArg LineCol.narrow place⟩

/-- A selection stops where the name stops. -/
theorem span_of_selected? (hr : r ∈ root.nodes) (h : r.selected? = some x) :
    x.span.stopByte = r.span.stopByte ∧ x.span.stop = r.span.stop := by
  obtain ⟨byte, place⟩ := (ordered r hr).stops x h
  exact ⟨congrArg narrow byte, congrArg LineCol.narrow place⟩

end Ordered

end RawNode

/-! ## Nodes -/

/-- Whether a node holds its children. If it is a selection, it starts where what it selects from
starts, and stops where the name stops. -/
structure Node.Snug (n : Node) : Prop where
  holds : ∀ c ∈ n.children, n.span.contains c.span
  reaches : ∀ span qualifier name, n = (Expression.memberSelect span qualifier name).node →
    span = qualifier.node.span.through name.node.span

namespace Node

variable {n : Node}

theorem snug_of_plain (plain : n.isSelection = false)
    (holds : ∀ c ∈ n.children, n.span.contains c.span) : n.Snug := by
  refine ⟨holds, ?_⟩
  rintro span qualifier name rfl
  exact absurd plain (by simp [Expression.node, isSelection])

theorem forall_mem_preorder_identifier {i : Identifier} : ∀ m ∈ i.node.preorder, m.Snug :=
  forall_mem_preorder.mpr
    ⟨snug_of_plain rfl forall_children_identifier, forall_children_identifier⟩

theorem snug_memberSelect {span : Span} {qualifier : Expression} {name : Identifier}
    (reaches : span = qualifier.node.span.through name.node.span)
    (outer : span.contains qualifier.node.span) (inner : span.contains name.node.span) :
    (Expression.memberSelect span qualifier name).node.Snug := by
  refine ⟨forall_children_memberSelect.mpr ⟨outer, inner⟩, ?_⟩
  rintro _ _ _ ⟨⟩
  exact reaches

end Node

/-! ## Where a node lies -/

/-- Whether a span lies from the start of one raw node to the stop of another. If it is exact, it
starts where the first raw node starts, unless that begins with annotations. -/
structure Fits (exact : Bool) (first last : RawNode) (span : Span) : Prop where
  starts : first.span.startByte ≤ span.startByte
  proper : span.startByte ≤ span.stopByte
  stops : span.stopByte ≤ last.span.stopByte
  aligned : exact = true → ¬ first.BeginsAnnotated →
    span.startByte = first.span.startByte ∧ span.start = first.span.start

namespace Fits

variable {root raw first last first' last' closing : RawNode} {exact : Bool} {span : Span}
  (ordered : root.Ordered)

include ordered

theorem whole (here : raw ∈ root.nodes) : Fits true raw raw raw.span :=
  ⟨Nat.le_refl _, ordered.span_proper here, Nat.le_refl _, fun _ _ => ⟨rfl, rfl⟩⟩

theorem joined (opens : root.StartsBy first last) :
    Fits true first last (first.span.through last.span) where
  starts := Nat.le_refl _
  proper := Nat.le_trans (ordered.span_of_startsBy opens) (ordered.span_proper opens.mem_right)
  stops := Nat.le_refl _
  aligned := fun _ _ => ⟨rfl, rfl⟩

/-- A span that is extended to the stop of a later raw node. -/
theorem extended (fits : Fits exact first last span) (order : root.Before last closing) :
    Fits exact first closing (span.through closing.span) where
  starts := fits.starts
  proper := by
    show span.startByte ≤ closing.span.stopByte
    calc span.startByte ≤ span.stopByte := fits.proper
      _ ≤ last.span.stopByte := fits.stops
      _ ≤ closing.span.startByte := ordered.span_of_before order
      _ ≤ closing.span.stopByte := ordered.span_proper order.mem_right
  stops := Nat.le_refl _
  aligned := fits.aligned

/-- What is extended lies within the longer span. -/
theorem contains_extended (fits : Fits exact first last span) (order : root.Before last closing) :
    (span.through closing.span).contains span := by
  rw [Span.contains_iff]
  refine ⟨Nat.le_refl _, Nat.le_trans fits.stops ?_⟩
  exact ordered.span_of_stopsBy (.inr order)

/-- So does what it is extended by. -/
theorem contains_closing (fits : Fits exact first last span) (order : root.Before last closing) :
    (span.through closing.span).contains closing.span := by
  rw [Span.contains_iff]
  refine ⟨?_, Nat.le_refl _⟩
  exact Nat.le_trans fits.proper (Nat.le_trans fits.stops (ordered.span_of_before order))

theorem led (fits : Fits true first last span) (here : raw ∈ root.nodes)
    (starts : raw.lead? = some first) (inside : last ∈ raw.nodes) : Fits true raw raw span where
  starts := (ordered.span_of_lead? here starts).1 ▸ fits.starts
  proper := fits.proper
  stops := Nat.le_trans fits.stops (ordered.span_of_stopsBy (.inl ⟨here, inside⟩))
  aligned := by
    intro _ plain
    obtain ⟨byte, place⟩ := fits.aligned rfl fun inner => plain (.lead starts inner)
    obtain ⟨leadByte, leadPlace⟩ := ordered.span_of_lead? here starts
    exact ⟨byte.trans leadByte, place.trans leadPlace⟩

theorem wider (fits : Fits exact first last span) (starts : root.StartsBy first' first)
    (stops : root.StopsBy last last') : Fits false first' last' span where
  starts := Nat.le_trans (ordered.span_of_startsBy starts) fits.starts
  proper := fits.proper
  stops := Nat.le_trans fits.stops (ordered.span_of_stopsBy stops)
  aligned := nofun

end Fits

/-! ## What is made from raw nodes in order -/

section

variable {root raw first last name : RawNode} {source : String} {n : Node} {scope : Expression}
  (ordered : root.Ordered)

include ordered

/-- A selection that a raw node is has the span of that node. This starts with the qualifier, which
has no annotations, and stops with the name. -/
theorem snug_selection (here : raw ∈ root.nodes) (before : raw.qualifier? = some first)
    (after : raw.selected? = some name) (inside : last ∈ raw.nodes)
    (fits : Fits true first last (Expression.node scope).span) :
    (Expression.memberSelect raw.span scope (Lowering.identifier source name)).node.Snug := by
  -- the qualifier starts where `first` does, and `first` where the raw node does
  have lead := RawNode.lead?_of_qualifier? before
  have inner : name ∈ raw.nodes := RawNode.mem_nodes_of_selected? after
  have start := fits.aligned rfl ((ordered raw here).plain first before)
  have opens := ordered.span_of_lead? here lead
  have stop := ordered.span_of_selected? here after
  refine Node.snug_memberSelect ?_ ?_ ?_
  · show raw.span = ⟨_, name.span.stopByte, _, name.span.stop⟩
    rw [start.1, start.2, opens.1, opens.2, stop.1, stop.2]
  · have whole := fits.led ordered here lead inside
    exact Span.contains_iff.mpr ⟨whole.starts, whole.stops⟩
  · exact Span.contains_iff.mpr ⟨ordered.span_of_startsBy (.inl ⟨here, inner⟩),
      ordered.span_of_stopsBy (.inl ⟨here, inner⟩)⟩

/-- A selection that is put together reaches from what it selects from to the name. -/
theorem snug_select (order : root.Before last name)
    (fits : Fits true first last (Expression.node scope).span) :
    (Lowering.select source scope name).node.Snug := by
  rw [Expression.span_node] at fits
  refine Node.snug_memberSelect ?_ ?_ ?_
  · rw [Expression.span_node]
    rfl
  · rw [Expression.span_node]
    exact fits.contains_extended ordered order
  · exact fits.contains_closing ordered order

/-- **What is made from raw nodes in order lies where they do, and its spans nest.** The induction is
on how it is made: each way to make a node needs of the nodes below no more than where they lie. -/
theorem Made.fits {exact : Bool} {l : Nat} (made : Made root source exact l first last n) :
    Fits exact first last n.span ∧ ∀ m ∈ n.preorder, m.Snug := by
  induction made with
  | @node l m first last n fewer opens span plain tokens operated children ih =>
    have holds : n.Snug := by
      refine Node.snug_of_plain plain fun c hc => ?_
      rw [span, Span.contains_iff]
      exact ⟨(ih c hc).1.starts, (ih c hc).1.stops⟩
    refine ⟨span ▸ .joined ordered opens, ?_⟩
    exact Node.forall_mem_preorder.mpr ⟨holds, fun c hc => (ih c hc).2⟩
  | selection fewer here before after inside qualifier ih =>
    refine ⟨.whole ordered here, Node.forall_mem_preorder.mpr ⟨?_, ?_⟩⟩
    · exact snug_selection ordered here before after inside ih.1
    · exact Node.forall_children_memberSelect.mpr ⟨ih.2, Node.forall_mem_preorder_identifier⟩
  | @select l m first last scope name fewer order qualifier ih =>
    rw [Expression.span_node] at ih
    refine ⟨ih.1.extended ordered order, Node.forall_mem_preorder.mpr ⟨?_, ?_⟩⟩
    · exact snug_select ordered order (Expression.span_node scope ▸ ih.1)
    · exact Node.forall_children_memberSelect.mpr ⟨ih.2, Node.forall_mem_preorder_identifier⟩
  | @arrayOf l m first last element closing fewer order inner ih =>
    rw [Expression.span_node] at ih
    refine ⟨ih.1.extended ordered order, Node.forall_mem_preorder.mpr ⟨?_, ?_⟩⟩
    · refine Node.snug_of_plain rfl (Node.forall_children_arrayType.mpr ?_)
      rw [Expression.span_node, Expression.span_node]
      exact ih.1.contains_extended ordered order
    · exact Node.forall_children_arrayType.mpr ih.2
  | led here starts inside made ih => exact ⟨ih.1.led ordered here starts inside, ih.2⟩
  | @annotated l raw inner n here tag inside made ih =>
    refine ⟨?_, ih.2⟩
    -- the annotations are left out, so nothing is said about where the type starts
    have wide := ih.1.wider ordered (.inl ⟨here, inside⟩) (.inl ⟨here, inside⟩)
    exact ⟨wide.starts, wide.proper, wide.stops, fun _ plain => absurd (.here tag) plain⟩
  | wider starts stops made ih => exact ⟨ih.1.wider ordered starts stops, ih.2⟩

end

/-! ## Builds -/

/-- **The spans of a built tree nest.** If the extents of a raw tree nest and keep to the order of the
grammar, then in whatever is built of it every node holds its children, and every selection starts
where what it selects from starts and stops where its name stops. -/
theorem snug_of_build {entry : Entry} {config : BuildConfig} {parsed : ParseResult}
    {tree : entry.Result} (ordered : parsed.root.Ordered)
    (built : entry.build config parsed = .ok tree) :
    ∀ n ∈ entry.nodes tree, ∀ m ∈ n.preorder, m.Snug :=
  fun n hn => ((Entry.made_of_build parsed.root.narrow_length built n hn).fits ordered).2

open RawNode (onLine)

/-- The raw tree of `a.b.c();`. The first dot is of a raw node, the second of the call. -/
def dottedCall : ParseResult where
  source := "a.b.c();"
  root :=
    onLine "program" true none 0 8
      [onLine "expression_statement" true none 0 8
        [onLine "method_invocation" true none 0 7
          [onLine "field_access" true (some "object") 0 3
            [onLine "identifier" true (some "object") 0 1 [],
             onLine "." false none 1 2 [],
             onLine "identifier" true (some "field") 2 3 []],
           onLine "." false none 3 4 [],
           onLine "identifier" true (some "name") 4 5 [],
           onLine "argument_list" true (some "arguments") 5 7
            [onLine "(" false none 5 6 [], onLine ")" false none 6 7 []]],
         onLine ";" false none 7 8 []]]

theorem dottedCall_ordered : dottedCall.root.Ordered := by
  have leaves : ∀ r ∈ dottedCall.root.nodes, ∀ p ∈ r.qualifier?,
      p.tag ≠ "annotated_type" ∧ p.lead? = none := by decide
  intro r hr
  constructor
  case plain =>
    intro p hp begins
    obtain ⟨other, leaf⟩ := leaves r hr p hp
    cases begins with
    | here tag => exact other tag
    | lead found inner => exact absurd (leaf.symm.trans found) nofun
  -- all other conditions are about extents and tags and can be computed
  all_goals
    revert r hr
    decide

theorem dottedCall_snug : dottedCall.root.Ordered ∧ ∃ tree,
    Entry.expression.build ⟨8, true⟩ dottedCall = .ok tree ∧
      ∀ m ∈ tree.node.preorder, m.Snug := by
  have intact : checkDamage ⟨8, true⟩ dottedCall = .ok () := rfl
  have built : ∃ tree, Entry.expression.build ⟨8, true⟩ dottedCall = .ok tree :=
    ⟨_, (Entry.build_of_intact intact).trans rfl⟩
  obtain ⟨tree, built⟩ := built
  exact ⟨dottedCall_ordered, tree, built,
    snug_of_build dottedCall_ordered built _ List.mem_cons_self⟩

end JavaSyntax
