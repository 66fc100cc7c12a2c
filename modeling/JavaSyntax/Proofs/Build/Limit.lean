import JavaSyntax.Proofs.Build.Entry
import JavaSyntax.Proofs.Lowering.Room
import Mathlib.Order.Basic
import Mathlib.Data.Nat.Find

/-!
# Limit — what the configuration of a builder decides

The limit of nesting decides one thing about a source: whether the answer is that it nests too deep.
Every source has a threshold; a builder with a smaller limit answers that, with its own limit, and
all builders with a larger one answer alike. The gate for damage decides as little: what a strict
builder accepts has no mark at all, so a lenient one does not look for any.

* `Entry.build_settles`: a larger limit changes only what was too deep;
* `Entry.shallow_of_le`: twice the number of nodes is large enough;
* `Entry.exists_isThreshold`, `Entry.IsThreshold.le`: there is one threshold;
* `answer_stable`: what follows for any change of the configuration.
-/

namespace JavaSyntax

variable {config : BuildConfig} {parsed : ParseResult} {error : SyntaxError}

/-! ## The gate -/

/-- What a strict gate lets through has no mark, so every gate lets it through. -/
theorem checkDamage_of_looser {config' : BuildConfig}
    (looser : config'.rejectSyntaxErrors → config.rejectSyntaxErrors)
    (h : checkDamage config parsed = .ok ()) : checkDamage config' parsed = .ok () := by
  unfold checkDamage at h ⊢
  by_cases intact : parsed.hasErrors = false
  -- without a mark the gate is open, whatever the strictness
  · rw [intact]
    rfl
  · rw [Bool.not_eq_false] at intact
    by_cases strict : config'.rejectSyntaxErrors
    · simp [intact, looser strict] at h
    · by_cases strict' : config.rejectSyntaxErrors
      · simp [intact, strict'] at h
      · simp only [intact, strict, strict'] at h ⊢
        exact h

/-- The gate looks at the strictness alone. -/
theorem checkDamage_congr {config' : BuildConfig}
    (same : config.rejectSyntaxErrors = config'.rejectSyntaxErrors) :
    checkDamage config parsed = checkDamage config' parsed := by
  rw [checkDamage, checkDamage, same]

/-- The gate knows nothing of nesting. -/
theorem ne_nestingTooDeep_of_checkDamage (h : checkDamage config parsed = .error error)
    (m line column : Nat) : error ≠ .nestingTooDeep m line column := by
  unfold checkDamage at h
  split at h
  · exact absurd h (by simp)
  · split at h
    · rw [Except.error.injEq] at h
      subst h
      unfold ParseResult.refusal
      split <;> exact SyntaxError.noConfusion
    · split at h
      · rw [Except.error.injEq] at h
        exact h ▸ SyntaxError.noConfusion
      · exact absurd h (by simp)

namespace Entry

variable {entry : Entry}

/-! ## The root -/

theorem inside_lowering (entry : Entry) (source : String) (root : RawNode) :
    (entry.lowering source root).Inside root := by
  cases entry with
  | compilationUnit => exact Lowering.inside_compilationUnit source root
  | expression => exact Lowering.inside_soleExpression root
  | statements => exact Lowering.inside_statementList source root

/-- An error of a build is that of the gate, the refusal of a node of the root, or one of its nodes
lies too deep. -/
theorem error_of_build (h : entry.build config parsed = .error error) :
    checkDamage config parsed = .error error ∨ parsed.root.Refusal error ∨
      ∃ q ∈ parsed.root.nodes, error = q.tooDeep config.maxDepth := by
  cases gate : checkDamage config parsed with
  | error found =>
    rw [build_of_damage gate, Except.error.injEq] at h
    exact .inl (congrArg _ h)
  | ok =>
    right
    rw [build_of_intact gate] at h
    rcases (entry.inside_lowering parsed.source parsed.root).run_error h with
      h | ⟨construct, q, inside, h⟩
    · exact .inl h
    · rcases error_of_lower h with h | ⟨s, hs, h⟩
      · exact .inl (h.mono inside.mem_nodes)
      · exact .inr ⟨s, RawNode.mem_nodes_trans inside.mem_nodes hs, h⟩

/-- A build that finds its source too deep says under which limit. -/
theorem maxDepth_of_build {m line column : Nat}
    (h : entry.build config parsed = .error (.nestingTooDeep m line column)) :
    m = config.maxDepth := by
  rcases error_of_build h with h | h | ⟨q, -, h⟩
  · exact absurd rfl (ne_nestingTooDeep_of_checkDamage h m line column)
  · exact absurd rfl (h.ne_nestingTooDeep m line column)
  · rw [RawNode.tooDeep, SyntaxError.nestingTooDeep.injEq] at h
    exact h.1

/-- What a build answers stands under a larger limit, if it is not that the source is too deep. -/
theorem build_settles {config' : BuildConfig} (deeper : config.maxDepth ≤ config'.maxDepth)
    (same : config.rejectSyntaxErrors = config'.rejectSyntaxErrors) :
    Settles config.maxDepth (entry.build config parsed) (entry.build config' parsed) := by
  cases gate : checkDamage config parsed with
  | error found =>
    right
    rw [build_of_damage gate, build_of_damage (checkDamage_congr same ▸ gate)]
  | ok =>
    rw [build_of_intact gate, build_of_intact (checkDamage_congr same ▸ gate)]
    exact Lowering.run_settles (lower_settles deeper) _

/-- From twice the number of its nodes on, no source is too deep. -/
theorem shallow_of_le (large : 2 * parsed.root.nodes.length ≤ config.maxDepth)
    (m line column : Nat) : entry.build config parsed ≠ .error (.nestingTooDeep m line column) := by
  intro h
  cases gate : checkDamage config parsed with
  | error found =>
    rw [build_of_damage gate, Except.error.injEq] at h
    exact ne_nestingTooDeep_of_checkDamage gate m line column h
  | ok =>
    rw [build_of_intact gate] at h
    rcases (entry.inside_lowering parsed.source parsed.root).run_error h with
      h | ⟨construct, q, inside, h⟩
    · exact h.ne_nestingTooDeep m line column rfl
    -- what the root asks for is smaller than the root, so the limit is at least its rank
    · have := inside.length_nodes_lt
      have enough : construct.rank q ≤ config.maxDepth := by
        unfold Construct.rank
        split <;> omega
      exact (refusal_of_lower enough h).ne_nestingTooDeep m line column rfl

/-- Some limit is large enough for a source. -/
theorem exists_shallow (entry : Entry) (reject : Bool) (parsed : ParseResult) :
    ∃ limit, ∀ m line column,
      entry.build ⟨limit, reject⟩ parsed ≠ .error (.nestingTooDeep m line column) :=
  ⟨2 * parsed.root.nodes.length, shallow_of_le (Nat.le_refl _)⟩

/-! ## The threshold -/

/-- Whether a limit of nesting separates the builders of one strictness: those with a smaller limit
find the source too deep, and all others answer alike. -/
structure IsThreshold (entry : Entry) (parsed : ParseResult) (reject : Bool) (threshold : Nat) :
    Prop where
  below : ∀ b : Builder, b.config.rejectSyntaxErrors = reject → b.config.maxDepth < threshold →
    ∃ line column,
      entry.answer b parsed = .error (.nestingTooDeep b.config.maxDepth line column)
  above : ∀ b b' : Builder,
    b.config.rejectSyntaxErrors = reject → b'.config.rejectSyntaxErrors = reject →
    threshold ≤ b.config.maxDepth → threshold ≤ b'.config.maxDepth →
    entry.answer b parsed = entry.answer b' parsed

/-- The smallest limit under which a source is not too deep is a threshold. -/
theorem exists_isThreshold (entry : Entry) (parsed : ParseResult) (reject : Bool) :
    ∃ threshold, entry.IsThreshold parsed reject threshold := by
  classical
  have shallow := exists_shallow entry reject parsed
  have settled (b : Builder) (strict : b.config.rejectSyntaxErrors = reject)
      (h : Nat.find shallow ≤ b.config.maxDepth) :
      entry.answer b parsed = entry.build ⟨Nat.find shallow, reject⟩ parsed := by
    have stands : Settles (Nat.find shallow) (entry.build ⟨Nat.find shallow, reject⟩ parsed)
        (entry.build b.config parsed) := build_settles h strict.symm
    rw [answer_eq_build]
    rcases stands with ⟨q, deep⟩ | same
    · exact absurd deep (Nat.find_spec shallow _ _ _)
    · exact same
  refine ⟨Nat.find shallow, ⟨?_, ?_⟩⟩
  -- a smaller limit is not shallow, so some refusal is for depth, and it names that limit
  · rintro b rfl h
    have deep := Nat.find_min shallow h
    simp only [not_forall, ne_eq, not_not] at deep
    obtain ⟨m, line, column, deep⟩ := deep
    obtain rfl : m = b.config.maxDepth := maxDepth_of_build deep
    exact ⟨line, column, (answer_eq_build entry b parsed).trans deep⟩
  · intro b b' strict strict' h h'
    rw [settled b strict h, settled b' strict' h']

/-- No threshold lies above another: just below it, builders would name the wrong limit. -/
theorem IsThreshold.le {reject : Bool} {t t' : Nat} (h : entry.IsThreshold parsed reject t)
    (h' : entry.IsThreshold parsed reject t') : t' ≤ t := by
  -- the limit just below `t'` is refused for depth, and `t'` gives the same answer under its own name
  by_contra higher
  have positive : t' - 1 < t' := by omega
  obtain ⟨line, column, deep⟩ := h'.below ⟨⟨t' - 1, reject⟩, 0⟩ rfl positive
  have same := h.above ⟨⟨t' - 1, reject⟩, 0⟩ ⟨⟨t', reject⟩, 0⟩ rfl rfl
    (by show t ≤ t' - 1; omega) (by show t ≤ t'; omega)
  rw [same, answer_eq_build] at deep
  have : t' - 1 = t' := maxDepth_of_build deep
  omega

end Entry

/-! ## The configuration -/

/-- **The configuration of a builder decides only what is refused.** For each source and entry: a
tree that a builder gives is given by every builder with at least its limit of nesting that is not
stricter; between builders of equal strictness, so is every error other than that of nesting, which
always names the builder's own limit; and there is exactly one threshold, below which all limits find
the source too deep and from which on all builders answer the same. -/
theorem answer_stable (entry : Entry) (parsed : ParseResult) :
    (∀ b b' : Builder, b.config.maxDepth ≤ b'.config.maxDepth →
      (b'.config.rejectSyntaxErrors → b.config.rejectSyntaxErrors) →
      ∀ tree, entry.answer b parsed = .ok tree → entry.answer b' parsed = .ok tree) ∧
    (∀ b b' : Builder, b.config.maxDepth ≤ b'.config.maxDepth →
      b.config.rejectSyntaxErrors = b'.config.rejectSyntaxErrors →
      ∀ error, (∀ m line column, error ≠ .nestingTooDeep m line column) →
        entry.answer b parsed = .error error → entry.answer b' parsed = .error error) ∧
    (∀ (b : Builder) m line column,
      entry.answer b parsed = .error (.nestingTooDeep m line column) → m = b.config.maxDepth) ∧
    (∀ reject, ∃! threshold, entry.IsThreshold parsed reject threshold) := by
  refine ⟨?_, ?_, ?_, ?_⟩
  · intro b b' deeper looser tree h
    rw [Entry.answer_eq_build] at h ⊢
    -- the looser gate lets the root through, and it is lowered with more room
    have gate := Entry.intact_of_build h
    rw [Entry.build_of_intact gate] at h
    rw [Entry.build_of_intact (checkDamage_of_looser looser gate)]
    exact (Lowering.run_settles (lower_settles deeper) _).ok h
  · intro b b' deeper same error shallow h
    rw [Entry.answer_eq_build] at h ⊢
    exact (Entry.build_settles deeper same).error h shallow
  · intro b m line column h
    rw [Entry.answer_eq_build] at h
    exact Entry.maxDepth_of_build h
  · intro reject
    obtain ⟨threshold, h⟩ := Entry.exists_isThreshold entry parsed reject
    exact ⟨threshold, h, fun other h' => Nat.le_antisymm (h.le h') (h'.le h)⟩

end JavaSyntax
