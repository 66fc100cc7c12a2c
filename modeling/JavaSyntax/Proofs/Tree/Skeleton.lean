import JavaSyntax.Proofs.Tree.Outline
import Mathlib.Data.List.Nodup

/-!
# Skeletons — what an outline says of a tree

The skeleton of a tree keeps the kind of each node, the text that it shows, and its children. An outline
says no less: as long as no text holds a line feed, the lines of an outline are those between its line
feeds; a line is read from the left, blanks first, then a name without blanks, then the text, whatever
that is; and the depths of the lines say which nodes lie below which, for all nodes below one are deeper
and the next that is not is its sibling.

* `Skeleton.lines`: the lines of a skeleton, and `Skeleton.eq_of_lines`: that they determine it;
* `Outline.Line.chars_injective`: a line determines what it says;
* `outline_faithful`: outlines are equal if and only if the skeletons are.
-/

namespace JavaSyntax

open Outline

/-! ## Skeletons -/

/-- A tree of kinds and shown texts. -/
inductive Skeleton where
  | node (kind : Kind) (shown : Option String) (below : List Skeleton)

/-- The kinds in a tree and the texts that its nodes show. -/
def Node.skeleton (n : Node) : Skeleton :=
  .node n.kind n.shownText? (n.children.attach.map fun c => c.1.skeleton)
termination_by sizeOf n
decreasing_by exact Node.sizeOf_lt_of_mem_children c.2

theorem Node.skeleton_eq (n : Node) :
    n.skeleton = .node n.kind n.shownText? (n.children.map Node.skeleton) := by
  rw [Node.skeleton]
  simp

namespace Skeleton

mutual

/-- The lines of a skeleton that lies so deep. -/
def lines (depth : Nat) : Skeleton → List Line
  | node kind shown below => ⟨depth, kind, shown⟩ :: linesIn (depth + 1) below

/-- The lines of several skeletons that lie so deep, one after the other. -/
def linesIn (depth : Nat) : List Skeleton → List Line
  | [] => []
  | s :: rest => lines depth s ++ linesIn depth rest

end

variable {depth : Nat} {l : Line}

theorem le_depth_of_mem_linesIn : (depth : Nat) → (ss : List Skeleton) → l ∈ linesIn depth ss →
    depth ≤ l.depth
  | _, [], h => absurd h List.not_mem_nil
  | depth, node kind shown below :: rest, h => by
    rw [linesIn, lines, List.cons_append] at h
    rcases List.mem_cons.mp h with rfl | h
    · exact Nat.le_refl depth
    · rcases List.mem_append.mp h with h | h
      · exact Nat.le_of_succ_le (le_depth_of_mem_linesIn (depth + 1) below h)
      · exact le_depth_of_mem_linesIn depth rest h

/-- The lines below a node are deeper than it, and the lines after them begin with one that is not. So
both can be told from their joined list. -/
theorem takeWhile_deeper (below rest : List Skeleton) :
    (linesIn (depth + 1) below ++ linesIn depth rest).takeWhile (fun l => decide (depth < l.depth)) =
      linesIn (depth + 1) below := by
  have deeper : ∀ l ∈ linesIn (depth + 1) below, decide (depth < l.depth) = true :=
    fun l hl => decide_eq_true (le_depth_of_mem_linesIn (depth + 1) below hl)
  rw [List.takeWhile_append_of_pos deeper]
  cases rest with
  | nil => exact List.append_nil _
  | cons s rest =>
    obtain ⟨kind, shown, inner⟩ := s
    rw [linesIn, lines, List.cons_append, List.takeWhile_cons_of_neg (by simp), List.append_nil]

/-- **The lines determine the skeletons.** -/
theorem eq_of_linesIn : (depth : Nat) → (ss ts : List Skeleton) →
    linesIn depth ss = linesIn depth ts → ss = ts
  | _, [], [], _ => rfl
  | _, [], node .. :: _, h | _, node .. :: _, [], h => absurd h (by simp [linesIn, lines])
  | depth, node kind shown below :: ss, node kind' shown' below' :: ts, h => by
    rw [linesIn, linesIn, lines, lines, List.cons_append, List.cons_append, List.cons.injEq,
      Line.mk.injEq] at h
    obtain ⟨⟨-, rfl, rfl⟩, h⟩ := h
    have inner : linesIn (depth + 1) below = linesIn (depth + 1) below' := by
      rw [← takeWhile_deeper below ss, h, takeWhile_deeper]
    rw [inner, List.append_cancel_left_eq] at h
    rw [eq_of_linesIn (depth + 1) below below' inner, eq_of_linesIn depth ss ts h]

theorem eq_of_lines {s t : Skeleton} (h : s.lines depth = t.lines depth) : s = t := by
  have h : linesIn depth [s] = linesIn depth [t] := by simp only [linesIn, h]
  exact List.singleton_inj.mp (eq_of_linesIn depth [s] [t] h)

theorem linesIn_eq_flatMap (ss : List Skeleton) : linesIn depth ss = ss.flatMap (lines depth) := by
  induction ss with
  | nil => rfl
  | cons s rest ih => rw [linesIn, ih, List.flatMap_cons]

end Skeleton

/-- A tree has the lines of its skeleton. -/
theorem Node.lines_skeleton (depth : Nat) (n : Node) : n.skeleton.lines depth = n.lines depth := by
  induction n using Node.inductionOnChildren generalizing depth with
  | node n ih =>
    rw [skeleton_eq, Skeleton.lines, Skeleton.linesIn_eq_flatMap, lines_eq, List.flatMap_map,
      List.flatMap_congr fun c hc => ih c hc (depth + 1)]
    rfl

/-! ## Reading a line -/

namespace Kind

theorem mem_all (kind : Kind) : kind ∈ all := by
  cases kind <;> (try rename_i family; cases family) <;> decide

theorem name_injective {a b : Kind} (h : a.name = b.name) : a = b := by
  have distinct : (all.map name).Nodup := by decide +kernel
  exact List.inj_on_of_nodup_map distinct a.mem_all b.mem_all h

end Kind

namespace Outline.Line

variable {l l' : Line}

/-- What stands before the next blank is the name of the kind. -/
theorem takeWhile_name (l : Line) :
    (l.kind.name.toList ++ l.rest).takeWhile (· != ' ') = l.kind.name.toList := by
  rw [List.takeWhile_append_of_pos fun c hc => ?_]
  · obtain ⟨depth, kind, _ | text⟩ := l <;> simp [rest]
  · rw [bne_iff_ne]
    rintro rfl
    exact Kind.notMem_name (by decide) hc

/-- The blanks at the start of a line are its indentation alone. -/
theorem takeWhile_blank (l : Line) :
    l.chars.takeWhile (· == ' ') = List.replicate (2 * l.depth) ' ' := by
  have blanks : ∀ c ∈ List.replicate (2 * l.depth) ' ', (c == ' ') = true :=
    fun c hc => beq_iff_eq.mpr (List.eq_of_mem_replicate hc)
  obtain ⟨c, name, found⟩ := List.exists_cons_of_ne_nil l.kind.toList_name_ne_nil
  have letter : (c == ' ') = false := by
    rw [beq_eq_false_iff_ne]
    rintro rfl
    exact Kind.notMem_name (by decide) (found ▸ List.mem_cons_self)
  rw [chars, List.takeWhile_append_of_pos blanks, found, List.cons_append,
    List.takeWhile_cons, letter, if_neg Bool.false_ne_true, List.append_nil]

/-- **A line determines what it says**, whatever text it shows. -/
theorem chars_injective (h : l.chars = l'.chars) : l = l' := by
  have depth : l.depth = l'.depth := by
    have blanks := congrArg (List.takeWhile (· == ' ')) h
    rw [takeWhile_blank, takeWhile_blank] at blanks
    have := congrArg List.length blanks
    rw [List.length_replicate, List.length_replicate] at this
    omega
  have after : l.kind.name.toList ++ l.rest = l'.kind.name.toList ++ l'.rest := by
    rw [chars, chars, depth] at h
    exact List.append_cancel_left h
  have name : l.kind.name.toList = l'.kind.name.toList := by
    rw [← takeWhile_name l, after, takeWhile_name]
  have kind := Kind.name_injective (String.toList_inj.mp name)
  have shown : l.shown = l'.shown := by
    rw [name, List.append_cancel_left_eq, rest, rest] at after
    cases hl : l.shown <;> cases hl' : l'.shown <;> simp_all [String.toList_inj]
  obtain ⟨_, _, _⟩ := l
  obtain ⟨_, _, _⟩ := l'
  simp_all

/-- Texts of lines are equal only for equal lines. -/
theorem text_injective : Function.Injective Line.text := fun _ _ h =>
  chars_injective (String.ofList_inj.mp h)

end Outline.Line

/-! ## Whole outlines -/

/-- In plain trees the outline determines the skeleton. -/
theorem Node.IsPlain.outline_eq_iff {n m : Node} (hn : n.IsPlain) (hm : m.IsPlain) :
    n.outline = m.outline ↔ n.skeleton = m.skeleton := by
  constructor
  · intro same
    have texts : (n.lines 0).map Line.text = (m.lines 0).map Line.text := by
      rw [← hn.linesOf_outline, same, hm.linesOf_outline]
    have lines := Outline.Line.text_injective.list_map texts
    rw [← Node.lines_skeleton, ← Node.lines_skeleton] at lines
    exact Skeleton.eq_of_lines lines
  · intro same
    rw [Node.outline_eq, Node.outline_eq, ← Node.lines_skeleton, ← Node.lines_skeleton, same]

/-- **Outlines are faithful.** An outline consists of the lines of its nodes, with one line feed
between any two of them: first that of the node itself, then those of its children, one level deeper.
They are in the order of the iterator, one for each node. A line is made of two blanks for each level,
the name of the kind and, for identifiers, literals and primitive types and for no others, one blank
and the text of the token. And unless a text that they show has a line feed, outlines are equal if and
only if the trees have the same kinds, children and shown texts throughout. -/
theorem outline_faithful :
    (∀ n : Node, n.outline = "\n".intercalate ((n.lines 0).map Line.text) ∧
      (∀ depth, n.lines depth = n.line depth :: n.children.flatMap (Node.lines (depth + 1))) ∧
      List.Forall₂ (fun m l => l = m.line l.depth) n.descendants.toList (n.lines 0) ∧
      n.shownText?.isSome = n.shape.showsText) ∧
    ∀ n m : Node, n.IsPlain → m.IsPlain →
      (n.outline = m.outline ↔ n.skeleton = m.skeleton) := by
  refine ⟨fun n => ⟨n.outline_eq, fun depth => n.lines_eq depth, ?_, n.isSome_shownText?⟩, ?_⟩
  · rw [Descendants.toList_descendants]
    exact n.forall₂_lines 0
  · exact fun n m => Node.IsPlain.outline_eq_iff

/-- The call `f(g(a))`. -/
def nestedCall : Expression :=
  .methodInvocation ⟨0, 7, ⟨0, 0⟩, ⟨0, 7⟩⟩ (.identifier ⟨"f", 0, 1, ⟨0, 0⟩, ⟨0, 1⟩⟩) []
    [.methodInvocation ⟨2, 6, ⟨0, 2⟩, ⟨0, 6⟩⟩ (.identifier ⟨"g", 2, 3, ⟨0, 2⟩, ⟨0, 3⟩⟩) []
      [.identifier ⟨"a", 4, 5, ⟨0, 4⟩, ⟨0, 5⟩⟩]]

/-- The call `f(g(), a)`, which has the same kinds and texts in pre-order. -/
def flatCall : Expression :=
  .methodInvocation ⟨0, 9, ⟨0, 0⟩, ⟨0, 9⟩⟩ (.identifier ⟨"f", 0, 1, ⟨0, 0⟩, ⟨0, 1⟩⟩) []
    [.methodInvocation ⟨2, 5, ⟨0, 2⟩, ⟨0, 5⟩⟩ (.identifier ⟨"g", 2, 3, ⟨0, 2⟩, ⟨0, 3⟩⟩) [] [],
      .identifier ⟨"a", 7, 8, ⟨0, 7⟩, ⟨0, 8⟩⟩]

example : nestedCall.node.outline =
    "METHOD_INVOCATION\n  IDENTIFIER f\n  METHOD_INVOCATION\n    IDENTIFIER g\n    IDENTIFIER a" := by
  rw [Node.outline_eq]
  cbv

theorem nestedCall_outline_ne : nestedCall.node.IsPlain ∧ flatCall.node.IsPlain ∧
    nestedCall.node.outline ≠ flatCall.node.outline := by
  have nested : nestedCall.node.IsPlain := Node.isPlain_iff_lineFeeds.mpr (by cbv)
  have flat : flatCall.node.IsPlain := Node.isPlain_iff_lineFeeds.mpr (by cbv)
  refine ⟨nested, flat, fun same => ?_⟩
  have skeletons := (outline_faithful.2 _ _ nested flat).mp same
  have deeper : (nestedCall.node.lines 0).map Line.depth = [0, 1, 1, 2, 2] := by cbv
  have beside : (flatCall.node.lines 0).map Line.depth = [0, 1, 1, 2, 1] := by cbv
  rw [← Node.lines_skeleton, skeletons, Node.lines_skeleton, beside] at deeper
  exact absurd deeper (by decide)

end JavaSyntax
