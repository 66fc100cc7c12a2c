import JavaSyntax.Proofs.Build.Limit
import JavaSyntax.Proofs.Raw.Damage

/-!
# Location — where an error of a build points

An error that names a line and a column is raised at a node, never at a place that was computed: by
the gate at the first skipped text, by a lowering at a node that it was asked for or looked up in one,
and by the guard of depth at the construct that it does not enter. All of them are nodes of the raw
tree.

* `RawNode.StartsAt`: where a node starts, as errors say it;
* `error_of_checkDamage`: the errors of the gate;
* `error_located`: what follows for all builds.
-/

namespace JavaSyntax

variable {config : BuildConfig} {parsed : ParseResult} {error : SyntaxError}

/-! ## Places -/

theorem narrow_narrow_succ (n : Nat) : narrow (narrow n + 1) = narrow (n + 1) := by
  unfold narrow coordinateLimit
  omega

namespace RawNode

/-- Whether a node starts at the given line and column, both counted from one. The largest number
that an error holds stands for all larger ones. -/
def StartsAt (r : RawNode) (line column : Nat) : Prop :=
  line = min (r.label.start.line + 1) coordinateLimit ∧
    column = min (r.label.start.column + 1) coordinateLimit

theorem startsAt_position (r : RawNode) : r.StartsAt r.position.1 r.position.2 :=
  ⟨narrow_narrow_succ r.label.start.line, narrow_narrow_succ r.label.start.column⟩

/-- The refusal of a node names its tag and where it starts. -/
theorem startsAt_of_unsupported {q : RawNode} {tag : String} {line column : Nat}
    (h : SyntaxError.unsupported tag line column = q.unsupported) :
    q.tag = tag ∧ q.StartsAt line column := by
  rw [RawNode.unsupported, SyntaxError.unsupported.injEq] at h
  obtain ⟨rfl, rfl, rfl⟩ := h
  exact ⟨rfl, q.startsAt_position⟩

/-- A node that lies too deep is named by the limit and by where it starts. -/
theorem startsAt_of_tooDeep {q : RawNode} {limit m line column : Nat}
    (h : SyntaxError.nestingTooDeep m line column = q.tooDeep limit) :
    m = limit ∧ q.StartsAt line column := by
  rw [tooDeep, SyntaxError.nestingTooDeep.injEq] at h
  obtain ⟨rfl, rfl, rfl⟩ := h
  exact ⟨rfl, q.startsAt_position⟩

end RawNode

/-! ## The gate -/

/-- The report of a damaged source names no construct. -/
theorem ParseResult.refusal_ne_unsupported (parsed : ParseResult) (tag : String)
    (line column : Nat) : parsed.refusal ≠ .unsupported tag line column := by
  unfold refusal
  split <;> exact SyntaxError.noConfusion

/-- An error of the gate is the report of the damage, or the refusal of a node. -/
theorem error_of_checkDamage (h : checkDamage config parsed = .error error) :
    error = parsed.refusal ∨ ∃ q ∈ parsed.root.nodes, error = q.unsupported := by
  unfold checkDamage at h
  split at h
  · exact absurd h (by simp)
  · split at h
    · exact .inl (Except.error.inj h).symm
    · split at h
      case _ q found =>
        exact .inr ⟨q, RawNode.mem_nodes_of_firstError? found, (Except.error.inj h).symm⟩
      case _ => exact absurd h (by simp)

/-! ## Builds -/

variable {entry : Entry} {m line column : Nat}

/-- A construct that a build refuses is a node of the raw tree. -/
theorem Entry.startsAt_of_unsupported {tag : String}
    (h : entry.build config parsed = .error (.unsupported tag line column)) :
    ∃ q ∈ parsed.root.nodes, q.tag = tag ∧ q.StartsAt line column := by
  rcases error_of_build h with gate | refusal | ⟨q, -, deep⟩
  · rcases error_of_checkDamage gate with report | ⟨q, hq, h⟩
    · exact absurd report.symm (parsed.refusal_ne_unsupported tag line column)
    · exact ⟨q, hq, RawNode.startsAt_of_unsupported h⟩
  · generalize found : SyntaxError.unsupported tag line column = error at refusal
    cases refusal with
    | unsupported hq => exact ⟨_, hq, RawNode.startsAt_of_unsupported found⟩
    | tree error => exact absurd found SyntaxError.noConfusion
    | snippetShape expected other => exact absurd found SyntaxError.noConfusion
  · exact absurd deep SyntaxError.noConfusion

/-- What lies too deep for a build is a node of the raw tree. -/
theorem Entry.startsAt_of_nestingTooDeep
    (h : entry.build config parsed = .error (.nestingTooDeep m line column)) :
    m = config.maxDepth ∧ ∃ q ∈ parsed.root.nodes, q.StartsAt line column := by
  rcases error_of_build h with gate | refusal | ⟨q, hq, deep⟩
  · exact absurd rfl (ne_nestingTooDeep_of_checkDamage gate m line column)
  · exact absurd rfl (refusal.ne_nestingTooDeep m line column)
  · obtain ⟨limit, starts⟩ := RawNode.startsAt_of_tooDeep deep
    exact ⟨limit, q, hq, starts⟩

/-- **Errors of a build point at nodes of the raw tree.** Whatever builder and entry: a construct that
is refused is a node with the tag that the error names and starts where it says; a construct that lies
too deep starts where the error says, and the limit is that of the builder; and a limit of twice the
number of nodes, comments among them, finds nothing too deep. -/
theorem error_located (entry : Entry) (b : Builder) (parsed : ParseResult) :
    (∀ tag line column, entry.answer b parsed = .error (.unsupported tag line column) →
      ∃ q ∈ parsed.root.nodes, q.tag = tag ∧ q.StartsAt line column) ∧
    (∀ maxDepth line column,
      entry.answer b parsed = .error (.nestingTooDeep maxDepth line column) →
        maxDepth = b.config.maxDepth ∧ ∃ q ∈ parsed.root.nodes, q.StartsAt line column) ∧
    (2 * parsed.root.nodes.length ≤ b.config.maxDepth → ∀ maxDepth line column,
      entry.answer b parsed ≠ .error (.nestingTooDeep maxDepth line column)) := by
  rw [Entry.answer_eq_build]
  refine ⟨fun tag line column h => ?_, fun maxDepth line column h => ?_, fun large => ?_⟩
  · exact Entry.startsAt_of_unsupported h
  · exact Entry.startsAt_of_nestingTooDeep h
  · exact Entry.shallow_of_le large

open RawNode (onLine) in
/-- The raw tree of `f(); yield 1;`. There are no statements that yield a value in typed trees. -/
def yieldAfterCall : ParseResult where
  source := "f(); yield 1;"
  root :=
    onLine "program" true none 0 13
      [onLine "expression_statement" true none 0 4
        [onLine "method_invocation" true none 0 3
          [onLine "identifier" true (some "name") 0 1 [],
           onLine "argument_list" true (some "arguments") 1 3
            [onLine "(" false none 1 2 [], onLine ")" false none 2 3 []]],
         onLine ";" false none 3 4 []],
       onLine "yield_statement" true none 5 13
        [onLine "yield" false none 5 10 [],
         onLine "decimal_integer_literal" true none 11 12 [],
         onLine ";" false none 12 13 []]]

/-- The statement is refused where it starts; with less room so is the call before it. -/
theorem yieldAfterCall_located :
    (Entry.statements.answer ⟨{}, 0⟩ yieldAfterCall =
        .error (.unsupported "yield_statement" 1 6) ∧
      ∃ q ∈ yieldAfterCall.root.nodes, q.tag = "yield_statement" ∧ q.StartsAt 1 6) ∧
    (Entry.statements.answer ⟨⟨1, true⟩, 0⟩ yieldAfterCall = .error (.nestingTooDeep 1 1 1) ∧
      1 = 1 ∧ ∃ q ∈ yieldAfterCall.root.nodes, q.StartsAt 1 1) ∧
    2 * yieldAfterCall.root.nodes.length ≤ 512 ∧
      ∀ maxDepth line column, Entry.statements.answer ⟨{}, 0⟩ yieldAfterCall ≠
        .error (.nestingTooDeep maxDepth line column) := by
  have refused : Entry.statements.answer ⟨{}, 0⟩ yieldAfterCall =
      .error (.unsupported "yield_statement" 1 6) :=
    (Entry.answer_eq_build _ _ _).trans ((Entry.build_of_intact rfl).trans rfl)
  have deep : Entry.statements.answer ⟨⟨1, true⟩, 0⟩ yieldAfterCall =
      .error (.nestingTooDeep 1 1 1) :=
    (Entry.answer_eq_build _ _ _).trans ((Entry.build_of_intact rfl).trans rfl)
  have enough : 2 * yieldAfterCall.root.nodes.length ≤ 512 := by decide
  have roomy := error_located .statements ⟨{}, 0⟩ yieldAfterCall
  have tight := error_located .statements ⟨⟨1, true⟩, 0⟩ yieldAfterCall
  exact ⟨⟨refused, roomy.1 _ _ _ refused⟩, ⟨deep, tight.2.1 _ _ _ deep⟩, enough,
    roomy.2.2 enough⟩

end JavaSyntax
