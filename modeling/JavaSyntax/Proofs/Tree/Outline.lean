import JavaSyntax.Tree.Outline
import JavaSyntax.Proofs.Tree.Traversal
import Mathlib.Data.List.Forall2

/-!
# Outlines are the recursive rendering — how they are written and how long they are

The outline is written from a list of pending nodes, and a line feed goes before a line as soon as
something has been written. No line is empty, since every kind has a name, so that comes to one line
feed between any two lines, and the list that is pending to a recursion over the tree.

* `Outline.Line`: what the line of a node says, and how it is written;
* `Node.lines`: the lines of a node, by recursion;
* `Node.forall₂_lines`: each is the line of one node, in pre-order;
* `Node.outline_eq`: the outline consists of these lines;
* `Node.length_linesOf_outline`: how many lines it has when texts that it shows have line feeds.

A line is kept as data (`Outline.Line`) until it is written. A text that is shown can have line feeds in
it, so a line in this sense can take several lines of the outline; the two are the same only in a plain
tree (`Node.IsPlain`).
-/

namespace JavaSyntax

/-! ## Lines -/

/-- The shapes whose nodes show the text of their token. -/
def Shape.showsText : Shape → Bool
  | .identifier | .literal | .primitiveType => true
  | _ => false

/-- The text that a node shows in an outline. -/
def Node.shownText? (n : Node) : Option String :=
  if n.shape.showsText then n.tokens.head?.map SyntaxToken.text else none

/-- A text that is shown is that of a token of the node. -/
theorem Node.token_of_shownText? {n : Node} {text : String} (shown : n.shownText? = some text) :
    ∃ token ∈ n.tokens, token.text = text := by
  unfold shownText? at shown
  split at shown
  case isTrue =>
    obtain ⟨token, first, rfl⟩ := Option.map_eq_some_iff.mp shown
    exact ⟨token, List.mem_of_head? first, rfl⟩
  case isFalse => cases shown

/-- Whether a text is shown depends on the shape alone. -/
theorem Node.isSome_shownText? (n : Node) : n.shownText?.isSome = n.shape.showsText := by
  cases n with
  | expression e => cases e <;> rfl
  | statement s => cases s <;> rfl
  | _ => rfl

namespace Outline

/-- What a line says: how deep a node lies, its kind, and the text that it shows. -/
structure Line where
  depth : Nat
  kind : Kind
  shown : Option String
  deriving DecidableEq, Repr

/-- What follows the name of the kind: the text after one blank, or nothing. -/
def Line.rest (l : Line) : List Char := l.shown.elim [] fun text => ' ' :: text.toList

/-- Two blanks for each level, the name of the kind, and the text, if there is one. -/
def Line.chars (l : Line) : List Char :=
  List.replicate (2 * l.depth) ' ' ++ (l.kind.name.toList ++ l.rest)

def Line.text (l : Line) : String := String.ofList l.chars

end Outline

open Outline

/-- The line of a node that lies so deep. -/
def Node.line (depth : Nat) (n : Node) : Line := ⟨depth, n.kind, n.shownText?⟩

/-- The lines of a node and of all nodes below it: its own, then those of its children, which lie one
level deeper. -/
def Node.lines (depth : Nat) (n : Node) : List Line :=
  n.line depth :: n.children.attach.flatMap fun c => c.1.lines (depth + 1)
termination_by sizeOf n
decreasing_by exact Node.sizeOf_lt_of_mem_children c.2

theorem Node.lines_eq (depth : Nat) (n : Node) :
    n.lines depth = n.line depth :: n.children.flatMap (Node.lines (depth + 1)) := by
  rw [Node.lines]
  simp [List.flatMap_subtype]

theorem Node.lines_ne_nil (depth : Nat) (n : Node) : n.lines depth ≠ [] := by
  rw [lines_eq]
  exact List.cons_ne_nil _ _

/-- Induction on a typed tree: what holds of a node as soon as it holds of its children holds of all. -/
theorem Node.inductionOnChildren {motive : Node → Prop}
    (node : ∀ n, (∀ c ∈ n.children, motive c) → motive n) (n : Node) : motive n :=
  node n fun c _ => inductionOnChildren node c
termination_by sizeOf n
decreasing_by exact Node.sizeOf_lt_of_mem_children ‹_›

/-- The lines are those of the nodes in pre-order, each at some depth. -/
theorem Node.forall₂_lines (depth : Nat) (n : Node) :
    List.Forall₂ (fun m l => l = m.line l.depth) n.preorder (n.lines depth) := by
  induction n using Node.inductionOnChildren generalizing depth with
  | node n ih =>
    rw [preorder_eq, lines_eq]
    refine .cons rfl ?_
    generalize n.children = children at ih
    induction children with
    | nil => exact .nil
    | cons c rest rest_ih =>
      rw [List.flatMap_cons, List.flatMap_cons]
      refine List.rel_append (ih c List.mem_cons_self (depth + 1)) (rest_ih fun d hd => ?_)
      exact ih d (List.mem_cons_of_mem c hd)

/-- The texts in the lines are those that the nodes show. -/
theorem Node.map_shown_lines (depth : Nat) (n : Node) :
    (n.lines depth).map Line.shown = n.preorder.map Node.shownText? := by
  have each := n.forall₂_lines depth
  generalize n.lines depth = lines, n.preorder = nodes at each
  induction each with
  | nil => rfl
  | cons line _ ih => rw [List.map_cons, List.map_cons, ih, line, Node.line]

/-- The texts that are shown in a tree, in pre-order. -/
def Node.shownTexts (n : Node) : List String := n.preorder.filterMap Node.shownText?

theorem Node.filterMap_shown_lines (depth : Nat) (n : Node) :
    (n.lines depth).filterMap Line.shown = n.shownTexts := by
  have shown := congrArg (List.filterMap id) (n.map_shown_lines depth)
  rwa [List.filterMap_map, List.filterMap_map, Function.id_comp, Function.id_comp] at shown

/-! ## Writing -/

namespace Kind

/-- Whether a character may stand in the name of a kind. -/
def isNameChar (c : Char) : Bool := c.isUpper || c == '_'

/-- No name is empty, and all are in capitals. -/
theorem name_spec (kind : Kind) :
    kind.name.toList.isEmpty = false ∧ kind.name.toList.all isNameChar = true := by
  cases kind <;> (try rename_i family; cases family) <;> decide +kernel

theorem toList_name_ne_nil (kind : Kind) : kind.name.toList ≠ [] :=
  List.isEmpty_eq_false_iff.mp kind.name_spec.1

/-- No other character stands in a name. -/
theorem notMem_name {kind : Kind} {c : Char} (h : isNameChar c = false) : c ∉ kind.name.toList := by
  intro found
  rw [List.all_eq_true.mp kind.name_spec.2 c found] at h
  exact Bool.noConfusion h

end Kind

namespace Outline

theorem tokenText?_eq (n : Node) : tokenText? n = n.shownText? := by
  cases n with
  | expression e => cases e <;> rfl
  | statement s => cases s <;> rfl
  | _ => rfl

theorem toList_indentation (depth : Nat) :
    (indentation depth).toList = List.replicate (2 * depth) ' ' := by
  rw [indentation, String.toList_join]
  induction depth with
  | zero => rfl
  | succ depth ih =>
    rw [List.replicate_succ, List.flatMap_cons, ih]
    rfl

/-- A line of the outline is its indentation and its caption. -/
theorem text_line (depth : Nat) (n : Node) :
    (n.line depth).text = indentation depth ++ caption n := by
  rw [← String.toList_inj, String.toList_append, toList_indentation, Line.text, caption,
    tokenText?_eq, String.toList_ofList, Line.chars, Node.line, Line.rest]
  cases n.shownText? <;> simp

theorem Line.chars_ne_nil (l : Line) : l.chars ≠ [] := by
  rw [chars, ne_eq, List.append_eq_nil_iff, List.append_eq_nil_iff]
  exact fun h => l.kind.toList_name_ne_nil h.2.1

theorem Line.text_ne_empty (l : Line) : l.text ≠ "" := by
  rw [ne_eq, ← String.toList_inj, text, String.toList_ofList]
  exact l.chars_ne_nil

/-- What is pending is written line by line. -/
theorem write_eq (written : String) (pending : List (Node × Nat)) :
    write written pending =
      (pending.flatMap fun p => (p.1.lines p.2).map Line.text).foldl addLine written := by
  induction written, pending using write.induct with
  | case1 written => rw [write]; rfl
  | case2 written n depth pending ih =>
    rw [write, ih, List.flatMap_cons, List.flatMap_append, Node.lines_eq, List.map_cons,
      List.cons_append, List.foldl_cons, text_line, List.map_flatMap, List.flatMap_map]

/-- After the first line, each line is put down after a line feed. -/
theorem foldl_addLine {written : String} (some : written ≠ "") (lines : List String) :
    lines.foldl addLine written = "\n".intercalate (written :: lines) := by
  induction lines generalizing written with
  | nil => rw [String.intercalate_singleton]; rfl
  | cons line rest ih =>
    have grown : addLine written line = written ++ "\n" ++ line :=
      if_neg fun empty => some (String.isEmpty_iff.mp empty)
    have some : written ++ "\n" ++ line ≠ "" := by simp
    rw [List.foldl_cons, grown, ih some, String.intercalate_cons_append,
      String.intercalate_cons_cons]

end Outline

/-- **The outline is the recursive rendering**: the lines of the node, with one line feed between any
two of them. -/
theorem Node.outline_eq (n : Node) :
    n.outline = "\n".intercalate ((n.lines 0).map Line.text) := by
  have first : addLine "" (n.line 0).text = (n.line 0).text := if_pos rfl
  rw [outline, write_eq, List.flatMap_singleton, lines_eq, List.map_cons, List.foldl_cons, first,
    foldl_addLine (n.line 0).text_ne_empty]

/-! ## Line feeds -/

theorem length_splitOn {α : Type} [BEq α] [LawfulBEq α] (a : α) (xs : List α) :
    (xs.splitOn a).length = xs.count a + 1 := by
  induction xs with
  | nil => simp
  | cons x xs ih =>
    rw [List.splitOn_cons_eq_if_modifyHead, List.count_cons]
    split <;> simp_all

namespace Outline

/-- The lines of a text: what stands between its line feeds. -/
def linesOf (text : String) : List String := (text.toList.splitOn '\n').map String.ofList

theorem linesOf_intercalate {texts : List String} (some : texts ≠ []) :
    linesOf ("\n".intercalate texts) = texts.flatMap linesOf := by
  induction texts with
  | nil => exact absurd rfl some
  | cons text rest ih =>
    cases rest with
    | nil => rw [String.intercalate_singleton, List.flatMap_singleton]
    | cons next rest =>
      rw [String.intercalate_cons_cons, List.flatMap_cons, ← ih (List.cons_ne_nil next rest)]
      simp [linesOf, List.splitOn_append_cons_self]

theorem length_linesOf (text : String) : (linesOf text).length = text.toList.count '\n' + 1 := by
  rw [linesOf, List.length_map, length_splitOn]

/-- The line feeds of a line are those of the text that it shows. -/
theorem Line.count_chars (l : Line) :
    l.chars.count '\n' = l.shown.elim 0 fun text => text.toList.count '\n' := by
  have blanks : (List.replicate (2 * l.depth) ' ').count '\n' = 0 :=
    List.count_eq_zero.mpr fun h => absurd (List.eq_of_mem_replicate h) (by decide)
  have name : l.kind.name.toList.count '\n' = 0 :=
    List.count_eq_zero.mpr (Kind.notMem_name (by decide))
  rw [chars, List.count_append, List.count_append, blanks, name, Nat.zero_add, Nat.zero_add, rest]
  cases l.shown with
  | none => rfl
  | some text => exact List.count_cons_of_ne (by decide)

theorem length_flatMap_linesOf (lines : List Line) :
    (lines.flatMap fun l => linesOf l.text).length =
      lines.length + ((lines.filterMap Line.shown).flatMap String.toList).count '\n' := by
  induction lines with
  | nil => rfl
  | cons l rest ih =>
    rw [List.flatMap_cons, List.length_append, ih, length_linesOf, Line.text, String.toList_ofList,
      l.count_chars, List.length_cons]
    cases shown : l.shown with
    | none => rw [List.filterMap_cons_none shown, Option.elim_none]; omega
    | some text =>
      rw [List.filterMap_cons_some shown, Option.elim_some, List.flatMap_cons, List.count_append]
      omega

/-- A line ends in a line feed only where the text that it shows does. -/
theorem Line.getLast?_chars (l : Line) :
    l.chars.getLast? = some '\n' ↔ ∃ text, l.shown = some text ∧ text.toList.getLast? = some '\n' := by
  rw [chars, List.getLast?_append, List.getLast?_append, rest]
  cases l.shown with
  | none =>
    obtain ⟨c, last⟩ := Option.ne_none_iff_exists'.mp
      (mt List.getLast?_eq_none_iff.mp l.kind.toList_name_ne_nil)
    simp only [Option.elim_none, List.getLast?_nil, Option.none_or, last, Option.some_or]
    refine ⟨fun h => ?_, nofun⟩
    cases h
    exact absurd (List.mem_of_getLast? last) (Kind.notMem_name (by decide))
  | some text =>
    simp only [Option.elim_some, List.getLast?_cons, Option.some_or]
    cases last : text.toList.getLast? <;> simp [last]

end Outline

/-- An outline ends like its last line. -/
theorem Node.getLast?_outline (n : Node) :
    n.outline.toList.getLast? = (n.lines 0).getLast?.bind fun l => l.chars.getLast? := by
  obtain ⟨before, last, lines⟩ := (List.eq_nil_or_concat (n.lines 0)).resolve_left (n.lines_ne_nil 0)
  rw [List.concat_eq_append] at lines
  obtain ⟨written, outline⟩ : ∃ written, n.outline = written ++ last.text := by
    rw [outline_eq, lines, List.map_append, List.map_singleton]
    cases before with
    | nil => exact ⟨"", by simp⟩
    | cons first before => exact ⟨_, String.intercalate_append_of_ne_nil (by simp) (by simp)⟩
  rw [outline, lines, List.getLast?_concat, Option.bind_some, String.toList_append, Line.text,
    String.toList_ofList, List.getLast?_append_of_ne_nil _ last.chars_ne_nil]

/-- An outline ends in a line feed only if its last node shows a text that does. -/
theorem Node.outline_ends_iff (n : Node) :
    n.outline.toList.getLast? = some '\n' ↔
      ∃ text, n.preorder.getLast?.bind Node.shownText? = some text ∧
        text.toList.getLast? = some '\n' := by
  have shown := congrArg (·.getLast?.bind id) (n.map_shown_lines 0)
  simp only [List.getLast?_map, Option.bind_map, Function.id_comp] at shown
  rw [getLast?_outline, ← shown]
  cases (n.lines 0).getLast? with
  | none => simp
  | some l => exact l.getLast?_chars

/-- The lines of an outline are those of what is written for each node. -/
theorem Node.linesOf_outline (n : Node) :
    linesOf n.outline = (n.lines 0).flatMap fun l => linesOf l.text := by
  have some : (n.lines 0).map Line.text ≠ [] := mt List.map_eq_nil_iff.mp (n.lines_ne_nil 0)
  rw [outline_eq, linesOf_intercalate some, List.flatMap_map]

/-- How many line feeds there are in the texts that are shown in a tree. -/
def Node.lineFeeds (n : Node) : Nat := (n.shownTexts.flatMap String.toList).count '\n'

/-- **The length of an outline**: one line for each node, and one more for each line feed in a text
that is shown. -/
theorem Node.length_linesOf_outline (n : Node) :
    (linesOf n.outline).length = n.preorder.length + n.lineFeeds := by
  rw [linesOf_outline, length_flatMap_linesOf, filterMap_shown_lines,
    (n.forall₂_lines 0).length_eq, lineFeeds]

/-- No text that is shown in a tree has a line feed. -/
def Node.IsPlain (n : Node) : Prop := ∀ text ∈ n.shownTexts, '\n' ∉ text.toList

theorem Node.isPlain_iff_lineFeeds {n : Node} : n.IsPlain ↔ n.lineFeeds = 0 := by
  simp [IsPlain, lineFeeds, List.count_eq_zero]

/-- Only a plain tree has as many lines in its outline as it has nodes. -/
theorem Node.isPlain_iff_length {n : Node} :
    n.IsPlain ↔ (linesOf n.outline).length = n.preorder.length := by
  rw [length_linesOf_outline, Nat.add_eq_left, isPlain_iff_lineFeeds]

/-- In a plain tree the lines of the outline are those of the nodes. -/
theorem Node.IsPlain.linesOf_outline {n : Node} (plain : n.IsPlain) :
    linesOf n.outline = (n.lines 0).map Line.text := by
  have whole : ∀ l ∈ n.lines 0, linesOf l.text = [l.text] := by
    intro l hl
    have none : '\n' ∉ l.chars := by
      rw [← List.count_eq_zero, l.count_chars]
      cases shown : l.shown with
      | none => rfl
      | some text =>
        refine List.count_eq_zero.mpr (plain text ?_)
        rw [← n.filterMap_shown_lines 0]
        exact List.mem_filterMap.mpr ⟨l, hl, shown⟩
    rw [linesOf, Line.text, String.toList_ofList, List.splitOn_eq_singleton none]
    rfl
  rw [n.linesOf_outline, List.flatMap_congr whole, List.map_eq_flatMap]

/-- In a plain tree each line of the outline is that of one node, in pre-order. -/
theorem Node.IsPlain.forall₂_linesOf {n : Node} (plain : n.IsPlain) :
    List.Forall₂ (fun m line => ∃ depth, line = (m.line depth).text) n.preorder
      (linesOf n.outline) := by
  rw [plain.linesOf_outline, List.forall₂_map_right_iff]
  exact (n.forall₂_lines 0).imp fun m l line => ⟨l.depth, congrArg Line.text line⟩

end JavaSyntax
