import JavaSyntax.Proofs.Build.Fidelity

/-!
# Operators of what is built — kinds and tokens agree

Kind and operator token of an operation are chosen from the same raw node. Most are found by the text
of that node, and the text becomes the token. Some are found by the tag of a token of the grammar, so
there the two agree as far as such tokens read as their tags. An increment or decrement stands on
either side of its operand; whether the first part is a name or a token tells which.

* `Node.Operated.spelled`: an operator from a raw node that spells it reads as it should;
* `RawNode.Updates`: an operator beside its operand;
* `RawNode.Updates.lowered`: what that is lowered to;
* `operators_agree`: what follows for all builds.
-/

namespace JavaSyntax

open Lowering

/-! ## Operators of a tree -/

/-- Where tokens of the grammar read as their tags, an operator reads as it is spelled. -/
theorem Node.Operated.spelled {root : RawNode} {source : String} {n : Node}
    (operated : n.Operated root source)
    (verbatim : ∀ q ∈ root.nodes, q.isNamed = false → q.text source = q.tag) : n.Spelled := by
  refine Node.spelled_of_tokens fun spelling known => ?_
  obtain ⟨q, hq, tokens, spells⟩ := operated spelling known
  refine ⟨q.token source, tokens, ?_⟩
  change q.text source = spelling
  rcases spells with text | ⟨unnamed, tag⟩
  · exact text
  · exact (verbatim q hq unnamed).trans tag

/-- All operators of a built tree read as they are spelled. -/
theorem Entry.spelled_of_build {entry : Entry} {config : BuildConfig} {parsed : ParseResult}
    {tree : entry.Result}
    (verbatim : ∀ q ∈ parsed.root.nodes, q.isNamed = false → q.text parsed.source = q.tag)
    (built : entry.build config parsed = .ok tree) :
    ∀ n ∈ entry.nodes tree, ∀ m ∈ n.preorder, m.Spelled := by
  intro n hn m hm
  have made := Entry.made_of_build parsed.root.narrow_length built n hn
  exact (made.copied m hm).operated.spelled verbatim

/-! ## Operators beside their operands -/

namespace RawNode

/-- Whether the extent of a node is not reversed, and its parts stand one after the other. -/
structure Spaced (r : RawNode) : Prop where
  proper : r.label.startByte ≤ r.label.stopByte
  apart : r.parts.Pairwise fun p q => p.label.stopByte ≤ q.label.startByte

/-- A node that covers some text covers at least a byte. -/
theorem startByte_lt_stopByte {r : RawNode} {source : String} (h : r.text source ≠ "") :
    r.label.startByte < r.label.stopByte := by
  by_contra reversed
  exact h (Source.decode_eq_empty_of_le source (Nat.not_lt.mp reversed))

/-- Whether a node consists of an operator `++` or `--` and a named operand, on either side. -/
structure Updates (r operator operand : RawNode) : Prop where
  tag : r.tag = "update_expression"
  children : r.children = [operator, operand] ∨ r.children = [operand, operator]
  unnamed : operator.isNamed = false
  sign : operator.tag = "++" ∨ operator.tag = "--"
  named : operand.isNamed = true

namespace Updates

variable {r operator operand : RawNode} {source : String} {below : Answers} {e : Expression}
  (updates : r.Updates operator operand)

include updates

theorem tokens : r.tokens = [operator] := by
  unfold RawNode.tokens
  rcases updates.children with children | children
  all_goals simp [children, updates.unnamed, updates.named]

theorem namedChildren : r.namedChildren = [operand] := by
  unfold RawNode.namedChildren
  rcases updates.children with children | children
  all_goals simp [children, updates.unnamed, updates.named]

/-- What an operator beside its operand is lowered to: the operation depends on which of the two comes
first. -/
theorem lowered (made : (expressionBody source r).run below = .ok e) :
    ∃ operation typed, Gives below expression operand typed ∧
      UnaryOperation.ofText? (operator.text source)
        (r.children.head?.any fun first => !first.isNamed) = some operation ∧
      e = .unary operation r.span (operator.token source) typed := by
  have body : expressionBody source r = updateOperation source r := by
    simp [expressionBody, literalKind?, compoundBody, updates.tag]
  rw [body] at made
  obtain ⟨token, operation, typed, found, known, given, rfl⟩ := exists_of_updateOperation made
  have same : token = operator := by
    rw [updates.tokens] at found
    exact List.mem_singleton.mp (List.mem_of_find?_eq_some found)
  subst same
  rw [updates.namedChildren, List.head?_cons] at given
  cases given with
  | some gives => exact ⟨operation, typed, gives, known, rfl⟩

/-- The operator covers some text, and lies on the side of the operand that the first part tells. -/
theorem sides (verbatim : operator.text source = operator.tag) (spaced : r.Spaced) :
    operator.label.startByte < operator.label.stopByte ∧
      ((r.children.head?.any fun first => !first.isNamed) = true ∧
          operator.label.stopByte ≤ operand.label.startByte ∨
        (r.children.head?.any fun first => !first.isNamed) = false ∧
          operand.label.stopByte ≤ operator.label.startByte) := by
  have order : r.children.Pairwise fun p q => p.label.stopByte ≤ q.label.startByte :=
    spaced.apart.sublist List.filter_sublist
  constructor
  · have covers : operator.text source ≠ "" := by
      rw [verbatim]
      rcases updates.sign with sign | sign <;> rw [sign] <;> decide
    exact startByte_lt_stopByte covers
  · rcases updates.children with children | children
    · rw [children, List.pairwise_pair] at order
      exact .inl ⟨by simp [children, updates.unnamed], order⟩
    · rw [children, List.pairwise_pair] at order
      exact .inr ⟨by simp [children, updates.named], order⟩

/-- The operation is a postfix operation exactly if the operator starts where the operand has
stopped. -/
theorem eq_postfix_iff {operation : UnaryOperation}
    (known : UnaryOperation.ofText? (operator.text source)
      (r.children.head?.any fun first => !first.isNamed) = some operation)
    (verbatim : operator.text source = operator.tag) (spaced : r.Spaced)
    (proper : operand.label.startByte ≤ operand.label.stopByte) :
    operation = .postfixIncrement ∨ operation = .postfixDecrement ↔
      operand.label.stopByte ≤ operator.label.startByte := by
  rw [UnaryOperation.eq_postfix_iff_of_ofText? known]
  obtain ⟨covers, ⟨first, order⟩ | ⟨second, order⟩⟩ := updates.sides verbatim spaced
  · rw [first]
    exact iff_of_false nofun (by omega)
  · exact iff_of_true second order

end Updates

/-! ## Spans of what is lowered -/

/-- The span of what a node is lowered to reaches from a node inside it to a node inside it. -/
theorem exists_span_of_lower {source : String} {limit room : Nat} {p : RawNode} {e : Expression}
    (given : Gives (lower source limit room) expression p e) :
    ∃ first ∈ p.nodes, ∃ last ∈ p.nodes, e.span = first.span.through last.span := by
  have grounded : Grounded p source _ (lower source limit room) p :=
    grounded_lower p.mem_nodes_self p.narrow_length
  have made := grounded.expression p.mem_nodes_self given
  rw [← Expression.span_node]
  exact (Node.forall_mem_preorder.mp made.copied).1.span

/-- Where extents nest, it makes no difference whether the operand is looked at or what it is lowered
to. -/
theorem Updates.typed_iff {r operator operand : RawNode} {source : String} {limit room : Nat}
    {typed : Expression} (updates : r.Updates operator operand)
    (given : Gives (lower source limit room) expression operand typed)
    (verbatim : operator.text source = operator.tag) (spaced : r.Spaced)
    (nested : ∀ q ∈ operand.nodes, q.Nested) (stored : operator.label.stopByte ≤ coordinateLimit) :
    operand.label.stopByte ≤ operator.label.startByte ↔
      typed.span.stopByte ≤ operator.span.startByte := by
  obtain ⟨first, -, last, hl, span⟩ := exists_span_of_lower given
  have inside := within_of_nested nested operand.mem_nodes_self hl
  have proper := (nested last hl).proper
  rw [span]
  change _ ↔ narrow last.label.stopByte ≤ narrow operator.label.startByte
  constructor
  · intro after
    exact narrow_le_narrow (Nat.le_trans inside.2 after)
  · intro after
    obtain ⟨covers, ⟨-, order⟩ | ⟨-, order⟩⟩ := updates.sides verbatim spaced
    -- an operator that comes first stops before anything in the operand does
    · rw [narrow_of_le (by omega : operator.label.startByte ≤ coordinateLimit)] at after
      have later := narrow_le_narrow (Nat.le_trans (Nat.le_trans order inside.1) proper)
      rw [narrow_of_le stored] at later
      omega
    · exact order

end RawNode

/-! ## Builds -/

/-- **Kinds and operator tokens agree.** If all tokens of the grammar read as their tags, and the
parts of each node stand one after the other, then in all that is built the operator token of an
operation is spelled as its kind says, and that of a test is `instanceof`. What an operator `++` or
`--` beside a named operand is lowered to is one of the two postfix operations exactly if the operator
starts where the operand has stopped, or later; this holds for the spans of the typed nodes too, if
the nodes in the operand nest, and the operator does not lie so far on that it is not stored where it
lies. -/
theorem operators_agree {parsed : ParseResult}
    (verbatim : ∀ q ∈ parsed.root.nodes, q.isNamed = false → q.text parsed.source = q.tag)
    (spaced : ∀ q ∈ parsed.root.nodes, q.Spaced) :
    (∀ (entry : Entry) config tree, entry.build config parsed = .ok tree →
      ∀ n ∈ entry.nodes tree, ∀ m ∈ n.preorder, m.Spelled) ∧
    (∀ r ∈ parsed.root.nodes, ∀ operator operand, r.Updates operator operand →
      ∀ limit room e, lower parsed.source limit room .expression r = .ok e →
        ∃ operation typed, e = .unary operation r.span (operator.token parsed.source) typed ∧
          (operation = .postfixIncrement ∨ operation = .postfixDecrement ↔
            operand.label.stopByte ≤ operator.label.startByte) ∧
          ((∀ q ∈ operand.nodes, q.Nested) → operator.label.stopByte ≤ coordinateLimit →
            (operation = .postfixIncrement ∨ operation = .postfixDecrement ↔
              typed.span.stopByte ≤ operator.span.startByte))) := by
  refine ⟨fun entry config tree built => Entry.spelled_of_build verbatim built, ?_⟩
  intro r hr operator operand updates limit room e made
  cases room with
  | zero => exact absurd made nofun
  | succ room =>
    obtain ⟨operation, typed, given, known, rfl⟩ := updates.lowered made
    have parts : operator ∈ r.children ∧ operand ∈ r.children := by
      rcases updates.children with children | children <;> simp [children]
    have reads := verbatim operator
      (RawNode.mem_nodes_trans hr (r.children_subset_nodes parts.1)) updates.unnamed
    have proper := (spaced operand
      (RawNode.mem_nodes_trans hr (r.children_subset_nodes parts.2))).proper
    have raw := updates.eq_postfix_iff known reads (spaced r hr) proper
    refine ⟨operation, typed, rfl, raw, fun nested stored => ?_⟩
    exact raw.trans (updates.typed_iff given reads (spaced r hr) nested stored)

open RawNode (onLine)

/-- The raw tree of `i++`, from the fourth byte on. -/
def increment : RawNode :=
  onLine "update_expression" true (some "right") 4 7
    [onLine "identifier" true none 4 5 [], onLine "++" false none 5 7 []]

/-- The raw tree of `x = i++;`. -/
def assignedIncrement : ParseResult where
  source := "x = i++;"
  root :=
    onLine "program" true none 0 8
      [onLine "expression_statement" true none 0 8
        [onLine "assignment_expression" true none 0 7
          [onLine "identifier" true (some "left") 0 1 [],
           onLine "=" false (some "operator") 2 3 [],
           increment],
         onLine ";" false none 7 8 []]]

theorem assignedIncrement_verbatim : ∀ q ∈ assignedIncrement.root.nodes, q.isNamed = false →
    q.text assignedIncrement.source = q.tag := by decide

theorem assignedIncrement_spaced : ∀ q ∈ assignedIncrement.root.nodes, q.Spaced := by
  have extents : ∀ q ∈ assignedIncrement.root.nodes,
      q.label.startByte ≤ q.label.stopByte ∧
        q.parts.Pairwise fun p q => p.label.stopByte ≤ q.label.startByte := by decide
  exact fun q hq => ⟨(extents q hq).1, (extents q hq).2⟩

theorem assignedIncrement_agrees :
    (∀ q ∈ assignedIncrement.root.nodes, q.isNamed = false →
      q.text assignedIncrement.source = q.tag) ∧
    (∀ q ∈ assignedIncrement.root.nodes, q.Spaced) ∧
    (∃ tree, Entry.expression.build ⟨8, true⟩ assignedIncrement = .ok tree ∧
      ∀ m ∈ tree.node.preorder, m.Spelled) ∧
    ∃ operation span token typed, lower assignedIncrement.source 8 8 .expression increment =
      .ok (.unary operation span token typed) ∧
        (operation = .postfixIncrement ∨ operation = .postfixDecrement) ∧
        typed.span.stopByte ≤ token.span.startByte := by
  have agree := operators_agree assignedIncrement_verbatim assignedIncrement_spaced
  refine ⟨assignedIncrement_verbatim, assignedIncrement_spaced, ?_, ?_⟩
  · have built : ∃ tree, Entry.expression.build ⟨8, true⟩ assignedIncrement = .ok tree :=
      ⟨_, (Entry.build_of_intact rfl).trans rfl⟩
    obtain ⟨tree, built⟩ := built
    exact ⟨tree, built, agree.1 .expression _ tree built _ List.mem_cons_self⟩
  · have updates : increment.Updates (onLine "++" false none 5 7 [])
        (onLine "identifier" true none 4 5 []) :=
      ⟨rfl, .inr rfl, rfl, .inl rfl, rfl⟩
    have sixth : assignedIncrement.root.nodes[5]? = some increment := rfl
    have here := List.mem_of_getElem? sixth
    have made : ∃ e, lower assignedIncrement.source 8 8 .expression increment = .ok e := ⟨_, rfl⟩
    obtain ⟨e, made⟩ := made
    obtain ⟨operation, typed, rfl, raw, typedSide⟩ :=
      agree.2 increment here _ _ updates 8 8 e made
    have nested : ∀ q ∈ (onLine "identifier" true none 4 5 []).nodes, q.Nested := by
      intro q hq
      rw [List.mem_singleton.mp hq]
      exact ⟨by decide, nofun, .nil⟩
    have postfixed := raw.mpr (by decide)
    exact ⟨operation, _, _, typed, made, postfixed, (typedSide nested (by decide)).mp postfixed⟩

end JavaSyntax
