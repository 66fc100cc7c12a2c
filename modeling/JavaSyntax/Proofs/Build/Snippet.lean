import JavaSyntax.Proofs.Build.Limit
import JavaSyntax.Proofs.Lowering.Forms.Entry
import JavaSyntax.Proofs.Lowering.Forms.Statement

/-!
# Snippets — what a single expression statement is

A source can be built as an expression or as statements. The first looks at the named children of
the root alone; the second at all children, where a semicolon alone is the empty statement. So they
agree on what a single expression statement is, up to the semicolons that stand beside it.

* `run_soleExpression`, `lower_expressionStatement`: how either reads the expression;
* `run_statementList_beside`: what the statements are if one node stands among tokens;
* `expression_iff_statements`: how the two builds compare, with one level more for the statement;
* `nameThenSemicolon_disagrees`: with a semicolon beside it the source is one statement for the
  first build and two for the second.
-/

namespace JavaSyntax

namespace Lowering

variable {source : String} {below : Answers} {limit room : Nat}

/-! ## The expression -/

/-- A source is lowered to an expression if its only named child is an expression statement. -/
theorem run_soleExpression {root : RawNode} {e : Expression} :
    (soleExpression root).run below = .ok e ↔
      ∃ only inner, root.namedChildren = [only] ∧ only.tag = "expression_statement" ∧
        only.namedChildren.head? = some inner ∧ below .expression inner = .ok e := by
  constructor
  · intro h
    obtain ⟨only, inner, alone, tag, head, given⟩ := soleExpression_form h
    exact ⟨only, inner, alone, tag, head, gives_request given⟩
  · rintro ⟨only, inner, alone, tag, head, given⟩
    obtain ⟨rest, named⟩ := List.head?_eq_some_iff.mp head
    unfold soleExpression
    rw [alone]
    dsimp only
    rw [tag, named, if_pos (beq_self_eq_true _)]
    dsimp only
    rw [expression, run_request, given]

/-- A limit of nesting shows in refusals alone. -/
theorem lower_eq_ok_iff {limit' : Nat} {construct : Construct} {raw : RawNode}
    {result : construct.Result} :
    lower source limit room construct raw = .ok result ↔
      lower source limit' room construct raw = .ok result :=
  ⟨(lower_settles (Nat.le_refl room) construct raw).ok,
    (lower_settles (Nat.le_refl room) construct raw).ok⟩

/-- An expression statement is one level above its expression. -/
theorem lower_expressionStatement {only : RawNode} {s : Statement} (named : only.isNamed = true)
    (tag : only.tag = "expression_statement") :
    lower source limit (room + 1) .statement only = .ok s ↔
      ∃ inner e, only.namedChildren.head? = some inner ∧
        lower source limit room .expression inner = .ok e ∧ s = .expression ⟨only.span, e⟩ := by
  have body : Lowering.body source .statement only = (do
      let value ← optional expression only.namedChildren.head?
      return .expression (← checked (Checked.expressionStatement only.span value))) := by
    show statementBody source only = _
    rw [statementBody, if_pos named, namedStatementBody, tag]
    rfl
  rw [lower_succ, body]
  simp only [run_bind_eq_ok, run_optional_eq_ok, run_checked_eq_ok, run_pure_eq_ok,
    Checked.expressionStatement_eq_ok]
  constructor
  · rintro ⟨value, given, made, ⟨e, rfl, rfl⟩, rfl⟩
    obtain ⟨inner, head, given⟩ := exists_of_rel_some given
    exact ⟨inner, e, head, gives_request given, rfl⟩
  · rintro ⟨inner, e, head, given, rfl⟩
    refine ⟨some e, ?_, _, ⟨e, rfl, rfl⟩, rfl⟩
    rw [head]
    exact .some (run_request.trans given)

/-! ## The statements -/

/-- The statements that tokens make: an empty one for each semicolon. -/
def emptyStatements (tokens : List RawNode) : List Statement :=
  (tokens.filter fun token => token.tag == ";").map fun token => .empty token.span

theorem emptyStatements_eq_nil {tokens : List RawNode} (bare : ∀ t ∈ tokens, t.tag ≠ ";") :
    emptyStatements tokens = [] := by
  rw [emptyStatements, List.map_eq_nil_iff, List.filter_eq_nil_iff]
  intro t ht
  rw [beq_iff_eq]
  exact bare t ht

/-- Tokens are lowered without asking for anything. -/
theorem run_each_tokens {tokens : List RawNode} (unnamed : ∀ t ∈ tokens, t.isNamed = false) :
    (gather (blockEntry source) tokens).run below = .ok (emptyStatements tokens) := by
  rw [run_gather_eq_ok]
  induction tokens with
  | nil => exact ⟨[], .nil, rfl⟩
  | cons t rest ih =>
    rw [List.forall_mem_cons] at unnamed
    obtain ⟨groups, given, joined⟩ := ih unnamed.2
    have entry : (blockEntry source t).run below = .ok (emptyStatements [t]) := by
      rw [blockEntry, unnamed.1, if_neg Bool.false_ne_true, emptyStatements, List.filter_singleton]
      cases t.tag == ";" <;> rfl
    refine ⟨emptyStatements [t] :: groups, .cons entry given, ?_⟩
    rw [List.flatten_cons, joined, emptyStatements, emptyStatements, emptyStatements,
      ← List.map_append, ← List.filter_append, List.singleton_append]

/-- An expression statement is one statement among others. -/
theorem run_blockEntry_expressionStatement {only : RawNode} {ss : List Statement}
    (named : only.isNamed = true) (tag : only.tag = "expression_statement") :
    (blockEntry source only).run below = .ok ss ↔
      ∃ s, below .statement only = .ok s ∧ ss = [s] := by
  have entry : blockEntry source only = (do return [← statement only]) := by
    have noType : isTypeDeclaration only = false := by rw [isTypeDeclaration, tag]; rfl
    rw [blockEntry, if_pos named, statementsOf, tag]
    show (if isTypeDeclaration only = true then _ else _) = _
    rw [noType, if_neg Bool.false_ne_true]
  rw [entry, run_bind_eq_ok, statement, run_request]
  refine exists_congr fun s => and_congr_right' ?_
  rw [run_pure_eq_ok, eq_comm]

/-- What a source is lowered to if an expression statement stands among tokens. -/
theorem run_statementList_beside {root only : RawNode} {before after : List RawNode}
    {ss : List Statement} (children : root.children = before ++ only :: after)
    (unnamed : ∀ t ∈ before ++ after, t.isNamed = false) (named : only.isNamed = true)
    (tag : only.tag = "expression_statement") :
    (statementList source root).run below = .ok ss ↔
      ∃ s, below .statement only = .ok s ∧
        ss = emptyStatements before ++ s :: emptyStatements after := by
  rw [List.forall_mem_append] at unnamed
  rw [statementList, children, run_gather_around]
  constructor
  · rintro ⟨xs, _, ys, hxs, entry, hys, rfl⟩
    obtain ⟨s, given, rfl⟩ := (run_blockEntry_expressionStatement named tag).mp entry
    cases (run_each_tokens unnamed.1).symm.trans hxs
    cases (run_each_tokens unnamed.2).symm.trans hys
    exact ⟨s, given, by simp⟩
  · rintro ⟨s, given, rfl⟩
    have entry : (blockEntry source only).run below = .ok [s] :=
      (run_blockEntry_expressionStatement named tag).mpr ⟨s, given, rfl⟩
    exact ⟨emptyStatements before, [s], emptyStatements after, run_each_tokens unnamed.1, entry,
      run_each_tokens unnamed.2, by simp⟩

/-- A named child makes a statement, unless it declares nothing. -/
theorem ne_nil_of_blockEntry {child : RawNode} {ss : List Statement} (named : child.isNamed = true)
    (declared : child.tag = "local_variable_declaration" → child.fields "declarator" ≠ [])
    (h : (blockEntry source child).run below = .ok ss) : ss ≠ [] := by
  rw [blockEntry, if_pos named] at h
  cases statementsOf_form h with
  | declaration tag given =>
    obtain ⟨_, _, -, -, declarators⟩ := run_variableDeclarations_eq_ok.mp given
    rw [ne_eq, List.map_eq_nil_iff]
    rintro rfl
    exact declared tag (List.forall₂_nil_right_iff.mp declarators)
  | constructorCall | type | statement => exact List.cons_ne_nil _ _

/-- Where there is no statement, there are tokens alone. -/
theorem unnamed_of_nothing {parts : List RawNode}
    (declared : ∀ p ∈ parts, p.isNamed = true → p.tag = "local_variable_declaration" →
      p.fields "declarator" ≠ [])
    (h : (gather (blockEntry source) parts).run below = .ok []) :
    ∀ t ∈ parts, t.isNamed = false := by
  obtain ⟨groups, given, nothing⟩ := run_gather_eq_ok.mp h
  rw [List.flatten_eq_nil_iff] at nothing
  intro t ht
  by_contra named
  rw [Bool.not_eq_false] at named
  have reversed : List.Forall₂ (flip (Gives below (blockEntry source))) groups parts := .flip given
  obtain ⟨group, hgroup, given⟩ := exists_of_forall₂ reversed ht
  exact ne_nil_of_blockEntry named (declared t ht named) given (nothing group hgroup)

end Lowering

open Lowering

/-! ## Both builds -/

/-- The only named child of a node stands among its tokens. -/
theorem RawNode.exists_beside {root only : RawNode} (alone : root.namedChildren = [only]) :
    ∃ before after, root.children = before ++ only :: after ∧
      (∀ t ∈ before ++ after, t.isNamed = false) ∧ only.isNamed = true := by
  have found : only ∈ root.namedChildren := alone ▸ List.mem_cons_self
  obtain ⟨child, named⟩ := List.mem_filter.mp found
  obtain ⟨before, after, children⟩ := List.append_of_mem child
  refine ⟨before, after, children, ?_, named⟩
  have counted := congrArg List.length alone
  rw [namedChildren, children, List.filter_append, List.filter_cons_of_pos named,
    List.length_append, List.length_cons, List.length_singleton] at counted
  have noneBefore : (before.filter isNamed).length = 0 := by omega
  have noneAfter : (after.filter isNamed).length = 0 := by omega
  rw [List.length_eq_zero_iff, List.filter_eq_nil_iff] at noneBefore noneAfter
  intro t ht
  rw [← Bool.not_eq_true]
  rcases List.mem_append.mp ht with ht | ht
  · exact noneBefore t ht
  · exact noneAfter t ht

theorem RawNode.namedChildren_of_beside {root only : RawNode} {before after : List RawNode}
    (children : root.children = before ++ only :: after)
    (unnamed : ∀ t ∈ before ++ after, t.isNamed = false) (named : only.isNamed = true) :
    root.namedChildren = [only] := by
  rw [List.forall_mem_append] at unnamed
  have nothing {tokens : List RawNode} (h : ∀ t ∈ tokens, t.isNamed = false) :
      tokens.filter isNamed = [] := by
    rw [List.filter_eq_nil_iff]
    intro t ht
    rw [h t ht]
    exact Bool.false_ne_true
  rw [namedChildren, children, List.filter_append, List.filter_cons_of_pos named,
    nothing unnamed.1, nothing unnamed.2, List.nil_append]

variable {parsed : ParseResult} {maxDepth : Nat} {reject : Bool} {e : Expression}

/-- A source is an expression if it is the statement of that expression, with one level more, up to
semicolons beside it. -/
theorem buildExpression_eq_ok_iff :
    buildExpression ⟨maxDepth, reject⟩ parsed = .ok e ↔
      ∃ before only after, parsed.root.children = before ++ only :: after ∧
        (∀ t ∈ before ++ after, t.isNamed = false) ∧ only.isNamed = true ∧
        only.tag = "expression_statement" ∧
        buildStatements ⟨maxDepth + 1, reject⟩ parsed =
          .ok (emptyStatements before ++
            .expression ⟨only.span, e⟩ :: emptyStatements after) := by
  -- whether damage is tolerated does not depend on the depth
  have gates : checkDamage ⟨maxDepth + 1, reject⟩ parsed = checkDamage ⟨maxDepth, reject⟩ parsed :=
    checkDamage_congr rfl
  cases gate : checkDamage ⟨maxDepth, reject⟩ parsed with
  | error error =>
    have expression : buildExpression ⟨maxDepth, reject⟩ parsed = .error error :=
      @Entry.build_of_damage .expression _ _ _ gate
    have statements : buildStatements ⟨maxDepth + 1, reject⟩ parsed = .error error :=
      @Entry.build_of_damage .statements _ _ _ (gates.trans gate)
    rw [expression, statements]
    exact iff_of_false nofun fun ⟨_, _, _, _, _, _, _, h⟩ => nomatch h
  | ok =>
    have expression : buildExpression ⟨maxDepth, reject⟩ parsed =
        (soleExpression parsed.root).run (lower parsed.source maxDepth maxDepth) :=
      @Entry.build_of_intact .expression _ _ gate
    have statements : buildStatements ⟨maxDepth + 1, reject⟩ parsed =
        (statementList parsed.source parsed.root).run
          (lower parsed.source (maxDepth + 1) (maxDepth + 1)) :=
      @Entry.build_of_intact .statements _ _ (gates.trans gate)
    -- without damage both builds come down to a run, with one level more for the statements
    rw [expression, statements, run_soleExpression]
    constructor
    · rintro ⟨only, inner, alone, tag, head, given⟩
      obtain ⟨before, after, children, unnamed, named⟩ := RawNode.exists_beside alone
      refine ⟨before, only, after, children, unnamed, named, tag, ?_⟩
      rw [run_statementList_beside children unnamed named tag]
      refine ⟨_, ?_, rfl⟩
      rw [lower_expressionStatement named tag]
      exact ⟨inner, e, head, lower_eq_ok_iff.mp given, rfl⟩
    · rintro ⟨before, only, after, children, unnamed, named, tag, given⟩
      rw [run_statementList_beside children unnamed named tag] at given
      obtain ⟨s, given, same⟩ := given
      rw [lower_expressionStatement named tag] at given
      obtain ⟨inner, e', head, given, rfl⟩ := given
      have same : e = e' := by simpa using same
      subst same
      exact ⟨only, inner, RawNode.namedChildren_of_beside children unnamed named, tag, head,
        lower_eq_ok_iff.mp given⟩

/-- If one statement is made in all, and from an expression statement, that is the only named child.
-/
theorem children_of_sole {source : String} {below : Answers} {root only : RawNode} {s : Statement}
    (declared : ∀ p ∈ root.namedChildren, p.tag = "local_variable_declaration" →
      p.fields "declarator" ≠ [])
    (found : only ∈ root.namedChildren) (tag : only.tag = "expression_statement")
    (h : (statementList source root).run below = .ok [s]) :
    ∃ before after, root.children = before ++ only :: after ∧
      (∀ t ∈ before ++ after, t.isNamed = false) ∧ only.isNamed = true := by
  obtain ⟨child, named⟩ := List.mem_filter.mp found
  obtain ⟨before, after, children⟩ := List.append_of_mem child
  refine ⟨before, after, children, ?_, named⟩
  rw [statementList, children, run_gather_around] at h
  obtain ⟨xs, _, ws, hxs, given, hws, all⟩ := h
  obtain ⟨made, -, rfl⟩ := (run_blockEntry_expressionStatement named tag).mp given
  -- the statement of this child is all there is
  have counted := congrArg List.length all
  simp only [List.length_singleton, List.length_append] at counted
  have nothingBefore : xs = [] := List.length_eq_zero_iff.mp (by omega)
  have nothingAfter : ws = [] := List.length_eq_zero_iff.mp (by omega)
  rw [nothingBefore] at hxs
  rw [nothingAfter] at hws
  have declares (p : RawNode) (hp : p ∈ root.children) (named : p.isNamed = true) :=
    declared p (List.mem_filter.mpr ⟨hp, named⟩)
  rw [children] at declares
  rw [List.forall_mem_append]
  constructor
  · exact unnamed_of_nothing (fun p hp => declares p (List.mem_append_left _ hp)) hxs
  · refine unnamed_of_nothing (fun p hp => declares p ?_) hws
    exact List.mem_append_right _ (List.mem_cons_of_mem _ hp)

/-- **What a single expression statement is.** A source is built as an expression exactly if, with
one level of nesting more, its statements are the statement of that expression and an empty one for
each semicolon that stands alone beside it. So if no semicolon stands alone, and every declaration
of variables declares some, a build as an expression succeeds with an expression if and only if the
build as statements, with one level more, succeeds with one statement, which is lowered from an
expression statement and is the statement of that expression. -/
theorem expression_iff_statements (parsed : ParseResult) (maxDepth : Nat) (reject : Bool)
    (e : Expression) :
    (buildExpression ⟨maxDepth, reject⟩ parsed = .ok e ↔
      ∃ before only after, parsed.root.children = before ++ only :: after ∧
        (∀ t ∈ before ++ after, t.isNamed = false) ∧ only.isNamed = true ∧
        only.tag = "expression_statement" ∧
        buildStatements ⟨maxDepth + 1, reject⟩ parsed =
          .ok (emptyStatements before ++
            .expression ⟨only.span, e⟩ :: emptyStatements after)) ∧
      ((∀ t ∈ parsed.root.tokens, t.tag ≠ ";") →
        (∀ p ∈ parsed.root.namedChildren, p.tag = "local_variable_declaration" →
          p.fields "declarator" ≠ []) →
        (buildExpression ⟨maxDepth, reject⟩ parsed = .ok e ↔
          ∃ only ∈ parsed.root.namedChildren, only.tag = "expression_statement" ∧
            buildStatements ⟨maxDepth + 1, reject⟩ parsed =
              .ok [.expression ⟨only.span, e⟩])) := by
  refine ⟨buildExpression_eq_ok_iff, fun bare declared => ?_⟩
  -- tokens other than semicolons leave no trace among the statements
  have silent {before after : List RawNode} {only : RawNode}
      (children : parsed.root.children = before ++ only :: after)
      (unnamed : ∀ t ∈ before ++ after, t.isNamed = false) :
      emptyStatements before = [] ∧ emptyStatements after = [] := by
    have bare (t : RawNode) (ht : t ∈ before ++ after) : t.tag ≠ ";" := by
      refine bare t (List.mem_filter.mpr ⟨?_, by rw [unnamed t ht, Bool.not_false]⟩)
      rw [children]
      rcases List.mem_append.mp ht with ht | ht
      · exact List.mem_append_left _ ht
      · exact List.mem_append_right _ (List.mem_cons_of_mem _ ht)
    exact ⟨emptyStatements_eq_nil fun t ht => bare t (List.mem_append_left _ ht),
      emptyStatements_eq_nil fun t ht => bare t (List.mem_append_right _ ht)⟩
  rw [buildExpression_eq_ok_iff]
  constructor
  · rintro ⟨before, only, after, children, unnamed, named, tag, built⟩
    obtain ⟨nothingBefore, nothingAfter⟩ := silent children unnamed
    rw [nothingBefore, nothingAfter] at built
    refine ⟨only, ?_, tag, built⟩
    rw [RawNode.namedChildren_of_beside children unnamed named]
    exact List.mem_singleton_self only
  · rintro ⟨only, found, tag, built⟩
    have gate := @Entry.intact_of_build .statements _ _ _ built
    have lowered := (@Entry.build_of_intact .statements _ _ gate).symm.trans built
    obtain ⟨before, after, children, unnamed, named⟩ := children_of_sole declared found tag lowered
    obtain ⟨nothingBefore, nothingAfter⟩ := silent children unnamed
    refine ⟨before, only, after, children, unnamed, named, tag, ?_⟩
    rw [nothingBefore, nothingAfter]
    exact built

/-! ## Samples -/

/-- The raw tree of an expression statement `a;` -/
def nameStatement : RawNode :=
  .onLine "expression_statement" true none 0 2
    [.onLine "identifier" true none 0 1 [], .onLine ";" false none 1 2 []]

/-- The raw tree of `a;` alone. -/
def nameAlone : ParseResult := ⟨"a;", .onLine "program" true none 0 2 [nameStatement]⟩

/-- The raw tree of `a;;`, with a semicolon that stands alone. -/
def nameThenSemicolon : ParseResult :=
  ⟨"a;;", .onLine "program" true none 0 3 [nameStatement, .onLine ";" false none 2 3 []]⟩

theorem nameAlone_agrees :
    (∀ t ∈ nameAlone.root.tokens, t.tag ≠ ";") ∧
    (∀ p ∈ nameAlone.root.namedChildren, p.tag = "local_variable_declaration" →
      p.fields "declarator" ≠ []) ∧
    ∃ e, buildExpression ⟨1, true⟩ nameAlone = .ok e ∧
      ∃ only ∈ nameAlone.root.namedChildren, only.tag = "expression_statement" ∧
        buildStatements ⟨2, true⟩ nameAlone = .ok [.expression ⟨only.span, e⟩] := by
  have bare : ∀ t ∈ nameAlone.root.tokens, t.tag ≠ ";" := by decide
  have declared : ∀ p ∈ nameAlone.root.namedChildren, p.tag = "local_variable_declaration" →
      p.fields "declarator" ≠ [] := by decide
  have built : ∃ e, buildExpression ⟨1, true⟩ nameAlone = .ok e := ⟨_, rfl⟩
  obtain ⟨e, built⟩ := built
  exact ⟨bare, declared, e, built,
    ((expression_iff_statements nameAlone 1 true e).2 bare declared).mp built⟩

/-- **A semicolon beside the statement shows in one build alone.** `a;;` is built as an expression,
but its statements are two. -/
theorem nameThenSemicolon_disagrees :
    ∃ e, buildExpression ⟨64, true⟩ nameThenSemicolon = .ok e ∧
      ¬ ∃ only ∈ nameThenSemicolon.root.namedChildren, only.tag = "expression_statement" ∧
        buildStatements ⟨65, true⟩ nameThenSemicolon = .ok [.expression ⟨only.span, e⟩] := by
  have expression : ∃ e, buildExpression ⟨64, true⟩ nameThenSemicolon = .ok e := ⟨_, rfl⟩
  have statements : ∃ first second,
      buildStatements ⟨65, true⟩ nameThenSemicolon = .ok [first, second] := ⟨_, _, rfl⟩
  obtain ⟨e, built⟩ := expression
  obtain ⟨first, second, two⟩ := statements
  refine ⟨e, built, ?_⟩
  rintro ⟨only, -, -, one⟩
  rw [two] at one
  have counted := congrArg List.length (Except.ok.inj one)
  exact absurd counted (by simp)

end JavaSyntax
