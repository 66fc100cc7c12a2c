import JavaSyntax.Proofs.Build.Entry
import JavaSyntax.Proofs.Raw.Damage

/-!
# Refusal — no damaged source is built

A lowering reads only some of the children of a node, so it cannot be relied on to meet the damage of
a source. The check before it does: if the flags of a raw tree are set above all damage
(`RawNode.Flagged`), a strict build refuses every mark that the root reaches and a lenient one every
error, wherever it stands. Nothing here depends on how a source is lowered.
-/

namespace JavaSyntax

/-- Whether the flags of a raw tree tell of all damage: every node with a mark strictly below it has
the flag, and so does a root that is a mark itself. -/
structure RawNode.Flagged (root : RawNode) : Prop where
  below : root.FlaggedBelow
  root : root.isDamaged → root.containsErrors

/-! ## The check -/

variable {config : BuildConfig} {parsed : ParseResult}

/-- The root of a source with damage has the flag. -/
theorem hasErrors_of_damaged (flagged : parsed.root.Flagged) {d : RawNode}
    (hd : d ∈ parsed.root.reachable) (damaged : d.isDamaged) : parsed.hasErrors = true := by
  rw [RawNode.reachable_eq] at hd
  rcases List.mem_cons.mp hd with rfl | hd
  · exact flagged.root damaged
  · obtain ⟨c, hc, hd⟩ := List.mem_flatMap.mp hd
    exact flagged.below _ (RawNode.mem_reachable_self _) c hc d hd damaged

/-- The refusal of a source with damage counts all reports and shows the first. -/
theorem refusal_of_damaged (flagged : parsed.root.Flagged) {d : RawNode}
    (hd : d ∈ parsed.root.reachable) (damaged : d.isDamaged) :
    ∃ first, parsed.errors.head? = some first ∧
      parsed.refusal =
        .syntaxErrors parsed.errors.length first.line first.column first.message := by
  have found : parsed.errors ≠ [] := by
    rw [ParseResult.errors, ne_eq, List.map_eq_nil_iff]
    exact RawNode.damage_ne_nil flagged.below hd damaged
  obtain ⟨first, rest, h⟩ := List.exists_cons_of_ne_nil found
  refine ⟨first, ?_, ?_⟩
  · rw [h, List.head?_cons]
  · rw [ParseResult.refusal, h, List.length_cons]

theorem checkDamage_of_strict (strict : config.rejectSyntaxErrors = true)
    (h : parsed.hasErrors = true) : checkDamage config parsed = .error parsed.refusal := by
  simp only [checkDamage, h, strict, Bool.not_true, Bool.false_eq_true, if_false, if_true]

theorem checkDamage_of_lenient (lenient : config.rejectSyntaxErrors = false)
    (h : parsed.hasErrors = true) {r : RawNode} (hr : parsed.root.firstError? = some r) :
    checkDamage config parsed = .error r.unsupported := by
  simp only [checkDamage, h, lenient, hr, Bool.not_true, Bool.false_eq_true, if_false]

/-- A strict build of a source with damage gives the refusal with its first report. -/
theorem strict_build_of_damaged (entry : Entry) (flagged : parsed.root.Flagged)
    (strict : config.rejectSyntaxErrors = true) {d : RawNode}
    (hd : d ∈ parsed.root.reachable) (damaged : d.isDamaged) :
    ∃ first, parsed.errors.head? = some first ∧
      entry.build config parsed =
        .error (.syntaxErrors parsed.errors.length first.line first.column first.message) := by
  obtain ⟨first, hfirst, hrefusal⟩ := refusal_of_damaged flagged hd damaged
  refine ⟨first, hfirst, ?_⟩
  rw [← hrefusal]
  exact Entry.build_of_damage
    (checkDamage_of_strict strict (hasErrors_of_damaged flagged hd damaged))

/-- A lenient build of a source with an error refuses the first error in pre-order. -/
theorem lenient_build_of_error (entry : Entry) (flagged : parsed.root.Flagged)
    (lenient : config.rejectSyntaxErrors = false) {d : RawNode}
    (hd : d ∈ parsed.root.reachable) (error : d.isError) :
    ∃ r, parsed.root.reachable.find? RawNode.isError = some r ∧
      entry.build config parsed = .error (.unsupported r.tag r.position.1 r.position.2) := by
  have damaged : d.isDamaged := by rw [RawNode.isDamaged, error, Bool.true_or]
  have found : (parsed.root.reachable.find? RawNode.isError).isSome := by
    rw [List.find?_isSome]
    exact ⟨d, hd, error⟩
  obtain ⟨r, hr⟩ := Option.isSome_iff_exists.mp found
  refine ⟨r, hr, Entry.build_of_damage ?_⟩
  rw [← RawNode.firstError?_eq_find? flagged.below] at hr
  exact checkDamage_of_lenient lenient (hasErrors_of_damaged flagged hd damaged) hr

/-! ## No damage is built -/

/-- **No damaged source is built.** Whatever the entry and the limit of nesting: a strict build of a
source that reaches damage gives the number of reports and the first of them, and a lenient one of a
source that reaches an error gives the first error in pre-order; so what a strict build accepts
reaches no damage, and what a lenient one accepts reaches no error. -/
theorem build_refuses_damage (entry : Entry) (config : BuildConfig) (parsed : ParseResult)
    (flagged : parsed.root.Flagged) :
    (config.rejectSyntaxErrors = true →
      ((∃ r ∈ parsed.root.reachable, r.isError ∨ r.isMissing) →
        ∃ first, parsed.errors.head? = some first ∧
          entry.build config parsed =
            .error (.syntaxErrors parsed.errors.length first.line first.column first.message)) ∧
      (∀ tree, entry.build config parsed = .ok tree →
        ∀ r ∈ parsed.root.reachable, ¬ r.isError ∧ ¬ r.isMissing)) ∧
    (config.rejectSyntaxErrors = false →
      ((∃ r ∈ parsed.root.reachable, r.isError) →
        ∃ r, parsed.root.reachable.find? RawNode.isError = some r ∧
          entry.build config parsed = .error (.unsupported r.tag r.position.1 r.position.2)) ∧
      (∀ tree, entry.build config parsed = .ok tree →
        ∀ r ∈ parsed.root.reachable, ¬ r.isError)) := by
  refine ⟨fun strict => ⟨?_, ?_⟩, fun lenient => ⟨?_, ?_⟩⟩
  · rintro ⟨r, hr, mark⟩
    exact strict_build_of_damaged entry flagged strict hr (Bool.or_eq_true _ _ ▸ mark)
  · intro tree built r hr
    rw [← not_or]
    intro mark
    obtain ⟨first, -, refused⟩ :=
      strict_build_of_damaged entry flagged strict hr (Bool.or_eq_true _ _ ▸ mark)
    rw [refused] at built
    exact absurd built (by simp)
  · rintro ⟨r, hr, error⟩
    exact lenient_build_of_error entry flagged lenient hr error
  · intro tree built r hr error
    obtain ⟨first, -, refused⟩ := lenient_build_of_error entry flagged lenient hr error
    rw [refused] at built
    exact absurd built (by simp)

/-- The raw tree of `break @;`. The skipped `@` stands where no lowering looks. -/
def strayBreak : ParseResult where
  source := "break @;"
  root :=
    .node ⟨"program", true, false, false, false, true, none, 0, 8, ⟨0, 0⟩, ⟨0, 8⟩⟩
      [.node ⟨"break_statement", true, false, false, false, true, none, 0, 8, ⟨0, 0⟩, ⟨0, 8⟩⟩
        [.node ⟨"break", false, false, false, false, false, none, 0, 5, ⟨0, 0⟩, ⟨0, 5⟩⟩ [],
         .node ⟨"ERROR", true, true, false, true, true, none, 6, 7, ⟨0, 6⟩, ⟨0, 7⟩⟩ [],
         .node ⟨";", false, false, false, false, false, none, 7, 8, ⟨0, 7⟩, ⟨0, 8⟩⟩ []]]

theorem strayBreak_flagged : strayBreak.root.Flagged where
  below := by unfold RawNode.FlaggedBelow; decide
  root := by decide

theorem strayBreak_refused :
    strayBreak.root.Flagged ∧
    (∃ first, strayBreak.errors.head? = some first ∧
      Entry.statements.build ⟨0, true⟩ strayBreak =
        .error (.syntaxErrors 1 first.line first.column first.message)) ∧
    Entry.statements.build ⟨512, false⟩ strayBreak = .error (.unsupported "ERROR" 1 7) := by
  refine ⟨strayBreak_flagged, ?_, ?_⟩
  · have count : strayBreak.errors.length = 1 := by
      simp [ParseResult.errors, RawNode.damage, RawNode.damageAmong, strayBreak,
        RawNode.isError, RawNode.isMissing, RawNode.containsErrors, RawNode.label,
        RawNode.children, RawNode.parts, RawNode.isKept]
    rw [← count]
    exact ((build_refuses_damage .statements ⟨0, true⟩ strayBreak strayBreak_flagged).1 rfl).1
      (by decide)
  · obtain ⟨r, hr, refused⟩ :=
      ((build_refuses_damage .statements ⟨512, false⟩ strayBreak strayBreak_flagged).2 rfl).1
        (by decide)
    rw [refused]
    cases hr
    rfl

end JavaSyntax
