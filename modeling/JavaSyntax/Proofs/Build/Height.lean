import JavaSyntax.Proofs.Lowering.Made.Entry
import JavaSyntax.Proofs.Tree.Height

/-!
# Height of what is built — the limit of nesting and the brackets

The limit of nesting counts the raw nodes that a build descends into. The typed tree nests deeper than
that where one raw node makes several typed ones: a construct makes a few, and the pairs of brackets
in one place make one each. So the limit bounds the height of a built tree for sources with a bounded
number of brackets in one place (`height_of_build`), and no limit does for all sources
(`height_unbounded`).

* `Made.height_le`: a node is no higher than the layers that it is made in;
* `bracketed`: the raw trees of `int[] x;`, `int[][] x;` and so on.
-/

namespace JavaSyntax

/-! ## The bound -/

theorem Made.height_le {root first last : RawNode} {source : String} {exact : Bool} {l : Nat}
    {n : Node} (h : Made root source exact l first last n) : n.height ≤ l := by
  induction h with
  | node fewer opens span plain tokens operated children ih => exact Node.height_le ih fewer
  | selection fewer here before after inside qualifier ih =>
    exact Node.height_le (Node.forall_children_memberSelect.mpr
      ⟨ih, height_identifier_le _ qualifier.pos⟩) fewer
  | select fewer order qualifier ih =>
    exact Node.height_le (Node.forall_children_memberSelect.mpr
      ⟨ih, height_identifier_le _ qualifier.pos⟩) fewer
  | arrayOf fewer order inner ih =>
    exact Node.height_le (Node.forall_children_arrayType.mpr ih) fewer
  | led here starts inside made ih => exact ih
  | annotated here tag inside made ih => exact ih
  | wider starts stops made ih => exact ih

/-- **The limit of nesting bounds the height of a tree together with the brackets.** If no more than
`k` pairs stand in one place, and no more than `k` values of an annotation in one another, then a
level of nesting adds at most `k + 4` nodes to what is built. -/
theorem height_of_build {entry : Entry} {config : BuildConfig} {parsed : ParseResult} {k : Nat}
    {tree : entry.Result} (narrow : parsed.root.Narrow k)
    (built : entry.build config parsed = .ok tree) :
    ∀ n ∈ entry.nodes tree, n.height ≤ (config.maxDepth + 1) * (k + 4) :=
  fun n hn => (Entry.made_of_build narrow built n hn).height_le

/-! ## Brackets in one place -/

open RawNode (onLine)

/-- So many pairs of brackets in a row, from a place of the line on. -/
def bracketPairs (first : Nat) : Nat → List RawNode
  | 0 => []
  | pairs + 1 =>
    onLine "[" false none first (first + 1) [] ::
      onLine "]" false none (first + 1) (first + 2) [] :: bracketPairs (first + 2) pairs

/-- The raw tree of a variable `x` of type `int` with so many pairs of brackets after the type. They
all stand in one node, so the tree is as deep for many of them as for one. -/
def bracketed (pairs : Nat) : ParseResult where
  source := "int" ++ String.join (List.replicate pairs "[]") ++ " x;"
  root :=
    let last := 3 + 2 * pairs
    onLine "program" true none 0 (last + 3)
      [onLine "local_variable_declaration" true none 0 (last + 3)
        [onLine "array_type" true (some "type") 0 last
          [onLine "integral_type" true (some "element") 0 3 [onLine "int" false none 0 3 []],
           onLine "dimensions" true (some "dimensions") 3 last (bracketPairs 3 pairs)],
         onLine "variable_declarator" true (some "declarator") (last + 1) (last + 2)
          [onLine "identifier" true (some "name") (last + 1) (last + 2) []],
         onLine ";" false none (last + 2) (last + 3) []]]

theorem length_closingBrackets_bracketPairs (label : RawLabel) (first pairs : Nat) :
    (Lowering.closingBrackets (.node label (bracketPairs first pairs))).length = pairs := by
  induction pairs generalizing first with
  | zero => rfl
  | succ pairs ih => exact congrArg Nat.succ (ih (first + 2))

/-- A limit of two is enough for any number of brackets, and each adds one to the height. -/
theorem build_bracketed (limit pairs : Nat) : ∃ v,
    Entry.statements.build ⟨limit + 2, true⟩ (bracketed pairs) = .ok [.variableDeclaration v] ∧
      v.type.node.height = pairs + 1 := by
  refine ⟨_, (Entry.build_of_intact rfl).trans rfl, ?_⟩
  show (List.foldl Lowering.arrayOf (.primitiveType _)
    (Lowering.closingBrackets (.node _ (bracketPairs 3 pairs)))).node.height = _
  rw [Lowering.height_foldl_arrayOf, length_closingBrackets_bracketPairs, height_primitiveType,
    Nat.add_comm]

theorem bracketed_low :
    (bracketed 2).root.Narrow 2 ∧ ∃ tree,
      Entry.statements.build ⟨5, true⟩ (bracketed 2) = .ok tree ∧
        ∀ n ∈ Entry.statements.nodes tree, n.height ≤ 36 := by
  have narrow : (bracketed 2).root.Narrow 2 := by
    unfold RawNode.Narrow
    decide
  obtain ⟨v, built, -⟩ := build_bracketed 3 2
  exact ⟨narrow, _, built, height_of_build narrow built⟩

/-- **No limit of nesting bounds the height of all trees.** Whatever the limit, from two on, and
whatever the bound: enough pairs of brackets after the type of a variable pass the limit and make a
tree that is higher. -/
theorem height_unbounded :
    ¬ ∃ limit ≥ 2, ∃ bound, ∀ pairs ≥ 1, ∀ tree,
      Entry.statements.build ⟨limit, true⟩ (bracketed pairs) = .ok tree →
        ∀ n ∈ Entry.statements.nodes tree, n.height ≤ bound := by
  rintro ⟨limit, enough, bound, low⟩
  -- one pair more than the bound makes a type that is too high by itself
  obtain ⟨limit, rfl⟩ := Nat.exists_eq_add_of_le' enough
  obtain ⟨v, built, height⟩ := build_bracketed limit (bound + 1)
  have whole := low (bound + 1) (Nat.le_add_left 1 bound) _ built _ List.mem_cons_self
  obtain ⟨-, type, -, -⟩ := Node.forall_children_variableDeclaration.mp
    (Node.height_le_succ_iff.mp (Nat.le_succ_of_le whole))
  omega

end JavaSyntax
