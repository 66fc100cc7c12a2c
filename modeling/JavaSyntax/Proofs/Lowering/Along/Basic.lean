import JavaSyntax.Proofs.Lowering.Forms.Entry
import JavaSyntax.Proofs.Lowering.Invariant
import JavaSyntax.Proofs.Raw.Sequence
import JavaSyntax.Proofs.Tree.Traversal

/-!
# Along the source — typed nodes in the order of raw ones

Slots of a node are in source order if each is filled from a group of raw parts, and those groups
are in turn. `Along` is what a list of typed nodes keeps of the raw nodes it is made from: each
starts where one of them lies, they start one after the other, and in all their trees children are
in order. It is closed under joining lists and under seeing raw nodes as lying in larger ones, and a
node whose children stand along its raw node stands along that node itself.

* `Node.InOrder`: whether the children of a node start one after the other;
* `Along.flatten`: groups in turn;
* `Keeps`: what one request, or one part of a form, contributes;
* `Orderly`: whether all requests for nodes of a raw tree keep to the source.

The order of children is asked for at every node of a built tree, but it is proved for one form at a
time. The row of the form says in which order its raw parts stand (`RawNode.Sequenced`); each slot of the
typed node is filled from one of these parts; and `flatten` puts the two together. What is in order below
a slot is part of `Along`, so that nothing has to be proved twice on the way up. Starts are compared and
not whole extents, since a part that is put together, such as a type with brackets behind the name, can
reach past what follows it.
-/

namespace JavaSyntax

/-! ## Nodes -/

namespace Node

/-- Whether the children of a node start one after the other. -/
def InOrder (n : Node) : Prop :=
  n.children.Pairwise fun a b => a.span.startByte ≤ b.span.startByte

instance (n : Node) : Decidable n.InOrder := inferInstanceAs (Decidable (n.children.Pairwise _))

/-- Whether a node is a call of a bare name with type arguments. The grammar has none but calls of
constructors, as in `<T>this(x)`. -/
def isBareCall : Node → Bool
  | .expression (.methodInvocation _ (.identifier _) (_ :: _) _) => true
  | _ => false

/-- Whether in a whole tree children are in order, those of bare calls apart. -/
def Settled (n : Node) : Prop := ∀ m ∈ n.preorder, m.InOrder ∨ m.isBareCall

end Node

/-- Whether a node starts where a raw node lies. -/
def StartsIn (n : Node) (p : RawNode) : Prop :=
  p.span.startByte ≤ n.span.startByte ∧ n.span.startByte ≤ p.span.stopByte

/-- Whether typed nodes keep to the order of raw ones. -/
structure Along (ps : List RawNode) (ns : List Node) : Prop where
  starts : ∀ n ∈ ns, ∃ p ∈ ps, StartsIn n p
  sorted : ns.Pairwise fun m n => m.span.startByte ≤ n.span.startByte
  settled : ∀ n ∈ ns, n.Settled

namespace Along

variable {ps qs : List RawNode} {ns ms : List Node} {n : Node}

/-- No nodes stand along anything. -/
theorem nil : Along ps [] := ⟨nofun, .nil, nofun⟩

/-- Nodes of a first group come before those of a second. -/
theorem append (h : Along ps ns) (h' : Along qs ms)
    (order : ∀ p ∈ ps, ∀ q ∈ qs, p.label.stopByte ≤ q.label.startByte) :
    Along (ps ++ qs) (ns ++ ms) := by
  refine ⟨?_, List.pairwise_append.mpr ⟨h.sorted, h'.sorted, ?_⟩, ?_⟩
  · intro n hn
    rcases List.mem_append.mp hn with hn | hn
    · obtain ⟨p, hp, starts⟩ := h.starts n hn
      exact ⟨p, List.mem_append_left qs hp, starts⟩
    · obtain ⟨q, hq, starts⟩ := h'.starts n hn
      exact ⟨q, List.mem_append_right ps hq, starts⟩
  · intro n hn m hm
    obtain ⟨p, hp, starts⟩ := h.starts n hn
    obtain ⟨q, hq, starts'⟩ := h'.starts m hm
    -- one starts before the stop of its raw node, the other after the start of its own
    calc n.span.startByte ≤ p.span.stopByte := starts.2
      _ ≤ q.span.startByte := narrow_le_narrow (order p hp q hq)
      _ ≤ m.span.startByte := starts'.1
  · intro n hn
    rcases List.mem_append.mp hn with hn | hn
    · exact h.settled n hn
    · exact h'.settled n hn

/-- Slots that are filled from groups in turn. -/
theorem flatten {groups : List (List RawNode)} {slots : List (List Node)}
    (order : RawNode.InTurn groups) (h : List.Forall₂ Along groups slots) :
    Along groups.flatten slots.flatten := by
  induction h with
  | nil => exact nil
  | cons first rest ih =>
    rw [RawNode.InTurn, List.pairwise_cons] at order
    -- the first group comes before all others, which are in turn by induction
    refine first.append (ih order.2) fun p hp q hq => ?_
    obtain ⟨qs, hqs, hq⟩ := List.mem_flatten.mp hq
    exact order.1 qs hqs p hp q hq

/-- Nodes that are made from some of the raw nodes in turn, any number from each. -/
theorem filter {β : Type} {nodes : β → List Node} {bs : List β} {keep : RawNode → Bool}
    (order : ps.Pairwise fun p q => p.label.stopByte ≤ q.label.startByte)
    (h : List.Forall₂ (fun p b => Along ([p].filter keep) (nodes b)) ps bs) :
    Along (ps.filter keep) (bs.flatMap nodes) := by
  induction h with
  | nil => exact nil
  | @cons p b ps bs first rest ih =>
    rw [List.pairwise_cons] at order
    -- what is filtered keeps its place, so both lists keep the order of the raw nodes
    rw [List.flatMap_cons, ← List.singleton_append, List.filter_append]
    refine first.append (ih order.2) fun p' hp q hq => ?_
    rw [List.mem_singleton.mp (List.mem_filter.mp hp).1]
    exact order.1 q (List.mem_filter.mp hq).1

/-- Like `filter`, where no raw node is left out. -/
theorem each {β : Type} {nodes : β → List Node} {bs : List β}
    (order : ps.Pairwise fun p q => p.label.stopByte ≤ q.label.startByte)
    (h : List.Forall₂ (fun p b => Along [p] (nodes b)) ps bs) : Along ps (bs.flatMap nodes) := by
  rw [← List.filter_true ps]
  exact filter order h

/-- Raw nodes may be seen as lying in larger ones. -/
theorem widen (h : Along ps ns) (inside : ∀ p ∈ ps, ∃ q ∈ qs,
    q.label.startByte ≤ p.label.startByte ∧ p.label.stopByte ≤ q.label.stopByte) : Along qs ns := by
  refine ⟨fun n hn => ?_, h.sorted, h.settled⟩
  obtain ⟨p, hp, starts⟩ := h.starts n hn
  obtain ⟨q, hq, holds⟩ := inside p hp
  exact ⟨q, hq, Nat.le_trans (narrow_le_narrow holds.1) starts.1,
    Nat.le_trans starts.2 (narrow_le_narrow holds.2)⟩

/-- Nodes that all start in the same place. -/
theorem level {start : Nat} (h : ∀ n ∈ ns, Along ps [n]) (same : ∀ n ∈ ns, n.span.startByte = start) :
    Along ps ns := by
  refine ⟨fun n hn => (h n hn).starts n List.mem_cons_self, ?_,
    fun n hn => (h n hn).settled n List.mem_cons_self⟩
  exact List.pairwise_of_forall_mem_list fun m hm n hn =>
    Nat.le_of_eq ((same m hm).trans (same n hn).symm)

/-- Standing along some raw nodes is standing along more of them; where the others lie makes no
difference. -/
theorem mono (h : Along ps ns) (sub : ps ⊆ qs) : Along qs ns :=
  h.widen fun p hp => ⟨p, sub hp, Nat.le_refl _, Nat.le_refl _⟩

/-- What stands along one part stands along any list with that part. -/
theorem of_mem {p : RawNode} (h : Along [p] ns) (hp : p ∈ ps) : Along ps ns :=
  h.mono (List.cons_subset.mpr ⟨hp, List.nil_subset ps⟩)

/-- A node whose children stand along any raw nodes, if it starts where one of the given ones lies. -/
theorem node (start : ∃ p ∈ ps, StartsIn n p) (held : Along qs n.children) : Along ps [n] := by
  refine ⟨List.forall_mem_singleton.mpr start, List.pairwise_singleton _ _,
    List.forall_mem_singleton.mpr ?_⟩
  exact Node.forall_mem_preorder.mpr ⟨.inl held.sorted, held.settled⟩

/-- A bare call, whose children may stand in any order. -/
theorem bareCall (bare : n.isBareCall) (start : ∃ p ∈ ps, StartsIn n p)
    (held : ∀ c ∈ n.children, c.Settled) : Along ps [n] := by
  refine ⟨List.forall_mem_singleton.mpr start, List.pairwise_singleton _ _,
    List.forall_mem_singleton.mpr ?_⟩
  exact Node.forall_mem_preorder.mpr ⟨.inr bare, held⟩

/-- A node that starts where a node starts that stands along the given ones. -/
theorem node_of_start {m : Node} (h : Along ps [m]) (start : n.span.startByte = m.span.startByte)
    (held : Along qs n.children) : Along ps [n] := by
  obtain ⟨p, hp, starts⟩ := h.starts m List.mem_cons_self
  refine .node ⟨p, hp, ?_⟩ held
  unfold StartsIn
  rwa [start]

end Along

/-! ## Parts of a form -/

namespace Lowering

variable {root raw : RawNode} {source : String} {below : Answers} {β : Type}
  {R : RawNode → β → Prop} {node : β → Node} {nodes : β → List Node} {ns : List Node}

/-- Whether whatever a node of the tree is related to stands along that node. -/
def Keeps (root : RawNode) (R : RawNode → β → Prop) (nodes : β → List Node) : Prop :=
  ∀ p ∈ root.nodes, ∀ b, R p b → Along [p] (nodes b)

namespace Keeps

variable {result : Option β}

/-- A part that gives any number of nodes. -/
theorem listPart {R : RawNode → List β → Prop} {result : Option (List β)}
    (k : Keeps root R fun bs => bs.map node) {part : Option RawNode}
    (found : ∀ p, part = some p → p ∈ root.nodes) (given : Option.Rel R part result) :
    Along part.toList ((result.getD []).map node) := by
  cases given with
  | none => exact .nil
  | some given => exact k _ (found _ rfl) _ given

variable (k : Keeps root R fun b => [node b])

include k

/-- A part that may be absent fills its slot if it is there. -/
theorem part {part : Option RawNode} (found : ∀ p, part = some p → p ∈ root.nodes)
    (given : Option.Rel R part result) : Along part.toList (slotOf node result) := by
  cases given with
  | none => exact .nil
  | some given => exact k _ (found _ rfl) _ given

/-- A part that is held under a field. -/
theorem field (here : raw ∈ root.nodes) {name : String}
    (given : Option.Rel R (raw.field? name) result) :
    Along (raw.field? name).toList (slotOf node result) :=
  k.part (fun _ found => RawNode.inner_of_field? here found) given

/-- A part that is found by its tag. -/
theorem child (here : raw ∈ root.nodes) {tag : String}
    (given : Option.Rel R (raw.childOfTag? tag) result) :
    Along (raw.childOfTag? tag).toList (slotOf node result) :=
  k.part (fun _ found => RawNode.inner_of_childOfTag? here found) given

end Keeps

/-- Whether a raw tree is in sequence, and what answers requests for its nodes stands along them. -/
structure Orderly (root : RawNode) (below : Answers) : Prop where
  sequenced : root.Sequenced
  asked : ∀ construct, Keeps root (fun p result => below construct p = .ok result) construct.nodes

namespace Orderly

variable (o : Orderly root below) (here : raw ∈ root.nodes)

include o

/-! ### Requests -/

/-- What is asked for as an expression stands along its node. The lemmas for the other requests are
alike. -/
theorem expression : Keeps root (Gives below Lowering.expression) fun e => [e.node] :=
  fun p hp e given => o.asked .expression p hp e (gives_request given)

theorem type : Keeps root (Gives below typeExpression) fun e => [e.node] :=
  fun p hp e given => o.asked .type p hp e (gives_request given)

theorem statement : Keeps root (Gives below Lowering.statement) fun s => [s.node] :=
  fun p hp s given => o.asked .statement p hp s (gives_request given)

/-- A request for statements is answered by a list, which stands along the one node. -/
theorem statements : Keeps root (Gives below Lowering.statements) fun ss => ss.map Statement.node :=
  fun p hp ss given => o.asked .statements p hp ss (gives_request given)

theorem typeDeclaration :
    Keeps root (Gives below Lowering.typeDeclaration) fun d => [.typeDeclaration d] :=
  fun p hp d given => o.asked .typeDeclaration p hp d (gives_request given)

theorem anonymousClass :
    Keeps root (Gives below Lowering.anonymousClass) fun d => [.typeDeclaration d] :=
  fun p hp d given => o.asked .anonymousClass p hp d (gives_request given)

theorem annotationUse :
    Keeps root (Gives below Lowering.annotationUse) fun use => [.annotationUse use] :=
  fun p hp use given => o.asked .annotationUse p hp use (gives_request given)

/-- A group has labels and statements, which are joined in this order here. -/
theorem caseGroup : Keeps root (Gives below Lowering.caseGroup) fun group =>
    group.1.map Node.caseLabel ++ group.2.map Statement.node :=
  fun p hp group given => o.asked .caseGroup p hp group (gives_request given)

include here

/-! ### Nodes -/

/-- What stands along nodes inside a node stands along that node. -/
theorem inside {ps : List RawNode} (inner : ∀ p ∈ ps, p ∈ raw.nodes) (h : Along ps ns) :
    Along [raw] ns :=
  h.widen fun p hp => ⟨raw, List.mem_cons_self, o.sequenced.within here (inner p hp)⟩

/-- What starts where a raw node starts lies in it, because no extent is reversed. -/
theorem startsIn {n : Node} (start : n.span.startByte = raw.span.startByte) : StartsIn n raw := by
  refine ⟨Nat.le_of_eq start.symm, Nat.le_trans (Nat.le_of_eq start) ?_⟩
  exact narrow_le_narrow (o.sequenced raw here).proper

/-- A node that starts where the raw node does. -/
theorem whole {n : Node} {ps : List RawNode} (start : n.span.startByte = raw.span.startByte)
    (held : Along ps ns) (same : ns = n.children) : Along [raw] [n] :=
  .node ⟨raw, List.mem_cons_self, o.startsIn here start⟩ (same ▸ held)

/-- A node without children. -/
theorem leaf {n : Node} (start : n.span.startByte = raw.span.startByte) (none : n.children = []) :
    Along [raw] [n] :=
  .node ⟨raw, List.mem_cons_self, o.startsIn here start⟩ (none ▸ @Along.nil [])

/-- A name is a leaf. -/
theorem identifier (source : String) : Along [raw] [(identifier source raw).node] :=
  o.leaf here rfl rfl

/-! ### Parts that may be absent, and lists -/

omit here in
/-- A name that is found in some part. -/
theorem name {part : Option RawNode} (source : String) {name : RawNode} (named : part = some name)
    (held : name ∈ root.nodes) : Along part.toList [(Lowering.identifier source name).node] :=
  named ▸ o.identifier held source

/-- A name that is found under a field. -/
theorem nameField (source : String) {field : String} {name : RawNode}
    (named : raw.field? field = some name) :
    Along (raw.field? field).toList [(Lowering.identifier source name).node] :=
  o.name source named (RawNode.inner_of_field? here named)

/-- Parts that are listed in source order, each of which makes any number of nodes. -/
theorem gather {ps : List RawNode} {bs : List β} (k : Keeps root R nodes)
    (listed : ps.Sublist raw.parts) (given : List.Forall₂ R ps bs) :
    Along ps (bs.flatMap nodes) := by
  have all : ∀ p ∈ ps, p ∈ root.nodes := fun p hp =>
    RawNode.mem_nodes_trans here (raw.parts_subset_nodes (listed.subset hp))
  exact .each ((o.sequenced raw here).pairwise_of_sublist listed)
    (((List.forall₂_and_left _ _).mpr ⟨all, given⟩).imp fun p b made => k p made.1 b made.2)

/-- Parts that are listed in source order, each of which makes one node. -/
theorem each {ps : List RawNode} {bs : List β} (k : Keeps root R fun b => [node b])
    (listed : ps.Sublist raw.parts) (given : List.Forall₂ R ps bs) : Along ps (bs.map node) := by
  rw [List.map_eq_flatMap]
  exact o.gather here k listed given

/-- Parts that are listed in source order, each of which makes a list. -/
theorem gatherLists {R : RawNode → List β → Prop} {ps : List RawNode} {groups : List (List β)}
    (k : Keeps root R fun bs => bs.map node) (listed : ps.Sublist raw.parts)
    (given : List.Forall₂ R ps groups) : Along ps (groups.flatten.map node) := by
  rw [List.map_flatten]
  exact o.gather here k listed given

omit here in
/-- The members of a list that may be absent. -/
theorem listed {list : Option RawNode} {members : RawNode → List RawNode} {bs : List β}
    (k : Keeps root R fun b => [node b]) (found : ∀ l, list = some l → l ∈ root.nodes)
    (sub : ∀ l, (members l).Sublist l.parts)
    (given : List.Forall₂ R ((list.map members).getD []) bs) :
    Along list.toList (bs.map node) := by
  cases list with
  | none =>
    cases given
    exact .nil
  | some l =>
    have inner : ∀ p ∈ members l, p ∈ l.nodes := fun p hp =>
      l.parts_subset_nodes ((sub l).subset hp)
    exact o.inside (found l rfl) inner (o.each (found l rfl) k (sub l) given)

/-- The members of a list inside the node. -/
theorem items {list : Option RawNode} {bs : List β} (k : Keeps root R fun b => [node b])
    (found : ∀ l, list = some l → l ∈ raw.nodes)
    (given : List.Forall₂ R (Lowering.items list) bs) : Along list.toList (bs.map node) :=
  o.listed k (fun l hl => RawNode.mem_nodes_trans here (found l hl))
    (fun l => l.namedChildren_sublist_parts) given

/-- The members of a list that is held under a field. -/
theorem itemsField {name : String} {bs : List β} (k : Keeps root R fun b => [node b])
    (given : List.Forall₂ R (Lowering.items (raw.field? name)) bs) :
    Along (raw.field? name).toList (bs.map node) :=
  o.items here k (fun _ => RawNode.mem_nodes_of_field?) given

/-- The members of a list that is found by its tag. -/
theorem itemsChild {tag : String} {bs : List β} (k : Keeps root R fun b => [node b])
    (given : List.Forall₂ R (Lowering.items (raw.childOfTag? tag)) bs) :
    Along (raw.childOfTag? tag).toList (bs.map node) :=
  o.items here k (fun _ => RawNode.mem_nodes_of_childOfTag?) given

/-- The members of one tag of a list that is found under a field. -/
theorem membersField {name tag : String} {bs : List β} (k : Keeps root R fun b => [node b])
    (given : List.Forall₂ R
      (((raw.field? name).map fun list => list.childrenOfTag tag).getD []) bs) :
    Along (raw.field? name).toList (bs.map node) :=
  o.listed k (fun _ found => RawNode.inner_of_field? here found)
    (fun l => List.filter_sublist.trans l.namedChildren_sublist_parts) given

omit here in
/-- What is found inside a part stands along the part. -/
theorem outward {outer : Option RawNode} {inner : RawNode → Option RawNode}
    (found : ∀ p, outer = some p → p ∈ root.nodes)
    (deep : ∀ p q, inner p = some q → q ∈ p.nodes) (h : Along (outer.bind inner).toList ns) :
    Along outer.toList ns := by
  refine h.widen fun q hq => ?_
  obtain ⟨p, part, at_⟩ := Option.bind_eq_some_iff.mp (Option.mem_toList.mp hq)
  exact ⟨p, Option.mem_toList.mpr part, o.sequenced.within (found p part) (deep p q at_)⟩

omit here in
/-- A part that is found inside another one. -/
theorem inner {outer : Option RawNode} {inner : RawNode → Option RawNode} {result : Option β}
    (k : Keeps root R fun b => [node b]) (found : ∀ p, outer = some p → p ∈ root.nodes)
    (deep : ∀ p q, inner p = some q → q ∈ p.nodes)
    (given : Option.Rel R (outer.bind inner) result) : Along outer.toList (slotOf node result) := by
  refine o.outward found deep (k.part (fun q hq => ?_) given)
  obtain ⟨p, part, at_⟩ := Option.bind_eq_some_iff.mp hq
  exact RawNode.mem_nodes_trans (found p part) (deep p q at_)

/-! ### Types and selections that are put together -/

omit here in
/-- A selection that is put together starts where its scope does, and its name comes after the scope. -/
theorem select (source : String) {ps : List RawNode} {scope : Expression} {name : RawNode}
    (named : name ∈ root.nodes) (h : Along ps [scope.node])
    (order : ∀ p ∈ ps, p.label.stopByte ≤ name.label.startByte) :
    Along ps [(Lowering.select source scope name).node] := by
  have both := h.append (o.identifier named source) fun p hp q hq =>
    List.mem_singleton.mp hq ▸ order p hp
  refine h.node_of_start ?_ both
  change scope.span.startByte = _
  rw [Expression.span_node]

end Orderly

end Lowering

namespace Along

variable {ps : List RawNode} {element : Expression}

/-- An array type that is put together starts where its element type does. -/
theorem arrayOf {closing : RawNode} (h : Along ps [element.node]) :
    Along ps [(Lowering.arrayOf element closing).node] := by
  refine h.node_of_start ?_ h
  change element.span.startByte = _
  rw [Expression.span_node]

/-- Brackets leave a type where it starts. -/
theorem foldl_arrayOf (closings : List RawNode) (h : Along ps [element.node]) :
    Along ps [(closings.foldl Lowering.arrayOf element).node] := by
  induction closings generalizing element with
  | nil => exact h
  | cons closing rest ih => exact ih h.arrayOf

end Along

end JavaSyntax
