import JavaSyntax.Proofs.Lowering.Made.Entry
import JavaSyntax.Proofs.Text.Decoding
import JavaSyntax.Proofs.Tree.Traversal

/-!
# Fidelity of what is built — offsets, places and texts agree with the source

A raw node knows its extent twice: as offsets in bytes, and as lines and columns. Typed trees copy
both, and join the start of one node with the stop of another, but they never compute either. So if the
two agree in the raw tree they agree in the typed one, and a token has the text that its span covers.
The text is decoded from the bytes of the raw node, and the span cuts it out of the source, so this rests
on `Source.decode_eq_slice`. It holds for offsets that fall inside a character too: both texts are empty.

* `Source.lineCol_narrow`: no place in a source that is small enough is cut off;
* `Node.Copied`: whether a node has its extent and its tokens from raw nodes;
* `Made.copied`: all that is made from raw nodes is copied;
* `faithful_of_build`: all nodes of a built tree are faithful to the source.
-/

namespace JavaSyntax

/-! ## Places -/

namespace Source

/-- Reading bytes moves a place on by no more lines and no more columns than there are bytes. -/
theorem foldl_advance_le (read : List UInt8) (place : LineCol) :
    (read.foldl advance place).line ≤ place.line + read.length ∧
      (read.foldl advance place).column ≤ place.column + read.length := by
  induction read generalizing place with
  | nil => exact ⟨Nat.le_refl _, Nat.le_refl _⟩
  | cons byte rest ih =>
    have step : (advance place byte).line ≤ place.line + 1 ∧
        (advance place byte).column ≤ place.column + 1 := by
      unfold advance
      split <;> simp
    have := ih (advance place byte)
    rw [List.foldl_cons, List.length_cons]
    omega

theorem length_bytes (source : String) : (bytes source).length = source.utf8ByteSize := rfl

/-- No place in a source that is small enough is cut off. -/
theorem lineCol_narrow {source : String} (small : source.utf8ByteSize ≤ coordinateLimit)
    (offset : Nat) : (lineCol source offset).narrow = lineCol source offset := by
  have read : ((bytes source).take offset).length ≤ coordinateLimit := by
    rw [List.length_take, length_bytes]
    exact Nat.le_trans (Nat.min_le_right _ _) small
  have far := foldl_advance_le ((bytes source).take offset) ⟨0, 0⟩
  rw [Nat.zero_add] at far
  unfold lineCol placeAfter LineCol.narrow
  rw [narrow_of_le (Nat.le_trans far.1 read), narrow_of_le (Nat.le_trans far.2 read)]

end Source

/-! ## Faithful copies -/

/-- Whether the places of a span are the lines and columns of its offsets. -/
structure Span.Located (source : String) (s : Span) : Prop where
  start : s.start = Source.lineCol source s.startByte
  stop : s.stop = Source.lineCol source s.stopByte

/-- A joined span is located if both spans are that it is joined from. -/
theorem Span.Located.through {source : String} {s t : Span} (hs : s.Located source)
    (ht : t.Located source) : (s.through t).Located source :=
  ⟨hs.start, ht.stop⟩

/-- Whether a token has the text that its span covers, and a located span. -/
structure SyntaxToken.Faithful (source : String) (t : SyntaxToken) : Prop where
  text : t.text = t.span.text source
  located : t.span.Located source

/-- Whether a node has a located span, and all tokens that its parts give are faithful. -/
structure Node.Faithful (source : String) (n : Node) : Prop where
  located : n.span.Located source
  tokens : ∀ part ∈ n.parts, ∀ t ∈ part.2.kept, t.Faithful source

/-! ## Raw nodes -/

namespace RawNode

/-- Whether a node lies in a source, and its places are those of its offsets. -/
structure Placed (source : String) (r : RawNode) : Prop where
  proper : r.label.startByte ≤ r.label.stopByte
  within : r.label.stopByte ≤ source.utf8ByteSize
  start : r.label.start = Source.lineCol source r.label.startByte
  stop : r.label.stop = Source.lineCol source r.label.stopByte

namespace Placed

variable {source : String} {r : RawNode} (placed : r.Placed source)
  (small : source.utf8ByteSize ≤ coordinateLimit)

include placed small

/-- The span of a node has the offsets and the places of the node itself. -/
theorem span_eq : r.span =
    ⟨r.label.startByte, r.label.stopByte, r.label.start, r.label.stop⟩ := by
  have stop := Nat.le_trans placed.within small
  unfold RawNode.span
  rw [narrow_of_le stop, narrow_of_le (Nat.le_trans placed.proper stop), placed.start, placed.stop,
    Source.lineCol_narrow small, Source.lineCol_narrow small]

theorem located : r.span.Located source := by
  rw [placed.span_eq small]
  exact ⟨placed.start, placed.stop⟩

theorem token : (r.token source).Faithful source := by
  refine ⟨?_, placed.located small⟩
  change r.text source = r.span.text source
  rw [placed.span_eq small]
  exact Source.decode_eq_slice source _ _

end Placed

end RawNode

/-! ## Typed nodes -/

/-- Whether a node reaches from a raw node to a raw node, and has its tokens from raw nodes, its
operator from one that spells it. -/
structure Node.Copied (root : RawNode) (source : String) (n : Node) : Prop where
  span : ∃ p ∈ root.nodes, ∃ q ∈ root.nodes, n.span = p.span.through q.span
  tokens : ∀ t ∈ n.tokens, ∃ q ∈ root.nodes, t = q.token source
  operated : n.Operated root source

namespace Node.Copied

variable {root raw : RawNode} {source : String} {n : Node}

theorem identifier (here : raw ∈ root.nodes) :
    ∀ m ∈ (Lowering.identifier source raw).node.preorder, m.Copied root source := by
  refine Node.forall_mem_preorder.mpr ⟨⟨⟨raw, here, raw, here, rfl⟩, ?_, nofun⟩,
    Node.forall_children_identifier⟩
  intro t ht
  exact ⟨raw, here, List.mem_singleton.mp ht⟩

/-- What is copied from a tree in which offsets and places agree is faithful to the source. -/
theorem faithful (copied : n.Copied root source) (small : source.utf8ByteSize ≤ coordinateLimit)
    (placed : ∀ r ∈ root.nodes, r.Placed source) : n.Faithful source := by
  obtain ⟨p, hp, q, hq, span⟩ := copied.span
  constructor
  case located =>
    rw [span]
    exact ((placed p hp).located small).through ((placed q hq).located small)
  case tokens =>
    intro part hpart t ht
    have found : t ∈ n.tokens := by
      rw [← n.tokens_parts]
      exact List.mem_flatMap.mpr ⟨part, hpart, ht⟩
    obtain ⟨r, hr, rfl⟩ := copied.tokens t found
    exact (placed r hr).token small

end Node.Copied

/-- **All that is made from raw nodes is copied from them.** The induction is on how a node is made: a
selection or an array type that is put together starts with its first part and stops with a raw node. -/
theorem Made.copied {root first last : RawNode} {source : String} {exact : Bool} {l : Nat}
    {n : Node} (made : Made root source exact l first last n) :
    ∀ m ∈ n.preorder, m.Copied root source := by
  induction made with
  | @node l m first last n fewer opens span plain tokens operated children ih =>
    refine Node.forall_mem_preorder.mpr ⟨⟨?_, tokens, operated⟩, ih⟩
    exact ⟨first, opens.mem_left, last, opens.mem_right, span⟩
  | @selection l m raw first last scope name fewer here before after inside qualifier ih =>
    refine Node.forall_mem_preorder.mpr ⟨⟨⟨raw, here, raw, here, rfl⟩, nofun, nofun⟩, ?_⟩
    have named := RawNode.mem_nodes_trans here (RawNode.mem_nodes_of_selected? after)
    exact Node.forall_children_memberSelect.mpr ⟨ih, .identifier named⟩
  -- the scope starts with a raw node, by induction, and the selection starts where its scope does
  | @select l m first last scope name fewer order qualifier ih =>
    obtain ⟨p, hp, q, -, span⟩ := (Node.forall_mem_preorder.mp ih).1.span
    rw [Expression.span_node] at span
    refine Node.forall_mem_preorder.mpr ⟨⟨⟨p, hp, name, order.mem_right, ?_⟩, nofun, nofun⟩, ?_⟩
    · change scope.span.through name.span = _
      rw [span]
      rfl
    · exact Node.forall_children_memberSelect.mpr ⟨ih, .identifier order.mem_right⟩
  | @arrayOf l m first last element closing fewer order inner ih =>
    obtain ⟨p, hp, q, -, span⟩ := (Node.forall_mem_preorder.mp ih).1.span
    rw [Expression.span_node] at span
    refine Node.forall_mem_preorder.mpr ⟨⟨⟨p, hp, closing, order.mem_right, ?_⟩, nofun, nofun⟩, ?_⟩
    · change element.span.through closing.span = _
      rw [span]
      rfl
    · exact Node.forall_children_arrayType.mpr ih
  | led here starts inside made ih => exact ih
  | annotated here tag inside made ih => exact ih
  | wider starts stops made ih => exact ih

/-! ## Builds -/

/-- **Built trees are faithful copies of the source.** If the nodes of a raw tree lie in a source of
less than 4 GiB, and their places are the lines and columns of their offsets, then so it is in whatever
is built of it, for the spans that are joined too; and every token has the text that its span covers. -/
theorem faithful_of_build {entry : Entry} {config : BuildConfig} {parsed : ParseResult}
    {tree : entry.Result} (small : parsed.source.utf8ByteSize < 4294967296)
    (placed : ∀ r ∈ parsed.root.nodes, r.Placed parsed.source)
    (built : entry.build config parsed = .ok tree) :
    ∀ n ∈ entry.nodes tree, ∀ m ∈ n.preorder, m.Faithful parsed.source := by
  intro n hn m hm
  have made := Entry.made_of_build parsed.root.narrow_length built n hn
  exact (made.copied m hm).faithful (Nat.le_of_lt_succ small) placed

/-- The raw tree of `int é,` and, on the next line, `ü[];`, where both names have two bytes. The second
variable and its type are joined from the start of the first line and the stop of the second. The last
identifier stops inside the character `ü`. -/
def twoVariables : ParseResult where
  source := "int é,\nü[];"
  root :=
    let node := RawNode.ofSource "int é,\nü[];"
    node "program" true none 0 13
      [node "local_variable_declaration" true none 0 13
        [node "integral_type" true (some "type") 0 3 [node "int" false none 0 3 []],
         node "variable_declarator" true (some "declarator") 4 6
          [node "identifier" true (some "name") 4 6 []],
         node "," false none 6 7 [],
         node "variable_declarator" true (some "declarator") 8 12
          [node "identifier" true (some "name") 8 9 [],
           node "dimensions" true (some "dimensions") 10 12
            [node "[" false none 10 11 [], node "]" false none 11 12 []]],
         node ";" false none 12 13 []]]

theorem twoVariables_placed : ∀ r ∈ twoVariables.root.nodes, r.Placed twoVariables.source := by
  have sizes : ∀ r ∈ twoVariables.root.nodes,
      r.label.startByte ≤ r.label.stopByte ∧ r.label.stopByte ≤ 13 := by decide
  have places : ∀ r ∈ twoVariables.root.nodes,
      r.label.start = Source.lineCol twoVariables.source r.label.startByte ∧
        r.label.stop = Source.lineCol twoVariables.source r.label.stopByte := by
    simp [twoVariables, RawNode.ofSource, RawNode.nodes, RawNode.nodesIn, RawNode.label]
  exact fun r hr => ⟨(sizes r hr).1, (sizes r hr).2, (places r hr).1, (places r hr).2⟩

/-- The text of a whole name is read, and that of a name cut inside a character is empty. -/
theorem twoVariables_faithful : twoVariables.source.utf8ByteSize < 4294967296 ∧
    (∀ r ∈ twoVariables.root.nodes, r.Placed twoVariables.source) ∧ ∃ first second : Statement,
      Entry.statements.build ⟨8, true⟩ twoVariables = .ok [first, second] ∧
        (first.node.preorder.flatMap Node.tokens).map SyntaxToken.text = ["int", "é"] ∧
        (second.node.preorder.flatMap Node.tokens).map SyntaxToken.text = ["int", ""] ∧
        ∀ n ∈ [first.node, second.node], ∀ m ∈ n.preorder, m.Faithful twoVariables.source := by
  have small : twoVariables.source.utf8ByteSize < 4294967296 := by decide
  have intact : checkDamage ⟨8, true⟩ twoVariables = .ok () := rfl
  have built : ∃ first second : Statement,
      Entry.statements.build ⟨8, true⟩ twoVariables = .ok [first, second] ∧
        (first.node.preorder.flatMap Node.tokens).map SyntaxToken.text = ["int", "é"] ∧
        (second.node.preorder.flatMap Node.tokens).map SyntaxToken.text = ["int", ""] :=
    ⟨_, _, (Entry.build_of_intact intact).trans rfl, by decide +kernel, by decide +kernel⟩
  obtain ⟨first, second, built, name, cut⟩ := built
  exact ⟨small, twoVariables_placed, first, second, built, name, cut,
    faithful_of_build small twoVariables_placed built⟩

end JavaSyntax
