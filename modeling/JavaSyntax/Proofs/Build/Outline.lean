import JavaSyntax.Proofs.Build.Fidelity
import JavaSyntax.Proofs.Tree.Outline

/-!
# Outlines of what is built — how many lines, and where each comes from

A shown text is copied from the source as it stands, so an outline has a line for each node and one
more for each line feed in a text that is shown. For the literals, names and keywords of one line that
is a line for each node. A text block keeps its line feeds, and its node takes as many lines as it has
in the source.

* `shown_of_build`: each text that is shown is that of a raw node;
* `outline_of_build`: the lines of the outline of a built tree;
* `textBlock_twoLines`: a tree of one node with an outline of two lines.
-/

namespace JavaSyntax

open Outline

variable {entry : Entry} {config : BuildConfig} {parsed : ParseResult} {tree : entry.Result}

/-- Built trees show texts of raw nodes only. -/
theorem shown_of_build (built : entry.build config parsed = .ok tree) {n m : Node}
    (hn : n ∈ entry.nodes tree) (hm : m ∈ n.preorder) {text : String}
    (shown : m.shownText? = some text) : ∃ r ∈ parsed.root.nodes, text = r.text parsed.source := by
  have copied := (Entry.made_of_build parsed.root.narrow_length built n hn).copied m hm
  obtain ⟨token, found, rfl⟩ := Node.token_of_shownText? shown
  obtain ⟨r, hr, rfl⟩ := copied.tokens token found
  exact ⟨r, hr, rfl⟩

/-- **The outline of a built tree** has one line for each node and one more for each line feed in a
text that it shows. So there are as many lines as nodes, each that of one node in pre-order, if and only
if no such text has a line feed. The outline ends in a line feed only if its last node shows a text that
does. And all texts that it shows are texts of the source, those of raw nodes. -/
theorem outline_of_build (built : entry.build config parsed = .ok tree) :
    ∀ n ∈ entry.nodes tree,
      (linesOf n.outline).length = n.descendants.toList.length + n.lineFeeds ∧
      ((linesOf n.outline).length = n.descendants.toList.length ↔ n.IsPlain) ∧
      (n.IsPlain → List.Forall₂ (fun m line => ∃ depth, line = (m.line depth).text)
        n.descendants.toList (linesOf n.outline)) ∧
      (n.outline.toList.getLast? = some '\n' ↔
        ∃ text, n.descendants.toList.getLast?.bind Node.shownText? = some text ∧
          text.toList.getLast? = some '\n') ∧
      ∀ m ∈ n.descendants.toList, ∀ text, m.shownText? = some text →
        ∃ r ∈ parsed.root.nodes, text = r.text parsed.source := by
  intro n hn
  rw [Descendants.toList_descendants]
  exact ⟨n.length_linesOf_outline, Node.isPlain_iff_length.symm, Node.IsPlain.forall₂_linesOf,
    n.outline_ends_iff, fun m hm text => shown_of_build built hn hm⟩

/-- The raw tree of a text block and a semicolon. -/
def textBlock : ParseResult where
  source := "\"\"\"\nx\"\"\";"
  root :=
    let node := RawNode.ofSource "\"\"\"\nx\"\"\";"
    node "program" true none 0 9
      [node "expression_statement" true none 0 9
        [node "string_literal" true none 0 8
          [node "\"\"\"" false none 0 3 [],
           node "multiline_string_fragment" true none 3 5 [],
           node "\"\"\"" false none 5 8 []],
         node ";" false none 8 9 []]]

/-- The tree of the text block, a single node. -/
def textBlockTree : Expression :=
  .literal .string ⟨"\"\"\"\nx\"\"\"", 0, 8, ⟨0, 0⟩, ⟨1, 4⟩⟩

theorem textBlock_built : Entry.expression.build ⟨64, true⟩ textBlock = .ok textBlockTree :=
  (Entry.build_of_intact rfl).trans rfl

theorem textBlock_outlined : Entry.expression.build ⟨64, true⟩ textBlock = .ok textBlockTree ∧
    ¬ textBlockTree.node.IsPlain ∧
    (linesOf textBlockTree.node.outline).length =
      textBlockTree.node.descendants.toList.length + 1 := by
  obtain ⟨length, plain, -⟩ := outline_of_build textBlock_built _ (List.mem_singleton.mpr rfl)
  have feeds : textBlockTree.node.lineFeeds = 1 := by
    rw [Node.lineFeeds, Node.shownTexts, Node.preorder_eq]
    decide +kernel
  rw [feeds] at length
  refine ⟨textBlock_built, fun h => ?_, length⟩
  have := plain.mpr h
  omega

/-- **A text block takes several lines.** The tree of a text block is one node, and its outline has two
lines. -/
theorem textBlock_twoLines : Entry.expression.build ⟨64, true⟩ textBlock = .ok textBlockTree ∧
    textBlockTree.node.descendants.toList.length = 1 ∧
    linesOf textBlockTree.node.outline = ["STRING_LITERAL \"\"\"", "x\"\"\""] := by
  refine ⟨textBlock_built, ?_, ?_⟩
  · rw [Descendants.toList_descendants, Node.preorder_eq]
    rfl
  · rw [Node.linesOf_outline, Node.lines_eq]
    decide +kernel

end JavaSyntax
