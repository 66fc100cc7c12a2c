import JavaSyntax.Proofs.Build.Entry
import JavaSyntax.Proofs.Lowering.Blind.Statement

/-!
# Comments do not matter — two trees that differ in comments and flags build the same

No lowering sees comments or the flags of error recovery, so they cannot show in what is built. They
show in the check of damage alone, which comes before: what it passes is built as if it had no
comments, no supplied tokens and no damage.

* `lower_stripped`: constructs, by induction on the room that is left;
* `build_of_stripped`: what passes the check is built as its tree without comments and flags is;
* `build_unaffected`: two trees that are the same without them.
-/

namespace JavaSyntax

/-! ## Constructs -/

/-- A construct is lowered to the same, and refused for the same, without its comments. -/
theorem lower_stripped (source : String) (limit room : Nat) (construct : Construct)
    (raw : RawNode) :
    lower source limit room construct raw.stripped = lower source limit room construct raw := by
  induction room generalizing construct raw with
  | zero => rw [lower_zero, lower_zero, RawNode.tooDeep, RawNode.position_stripped, RawNode.tooDeep]
  | succ room ih =>
    have below : (fun construct (q : RawNode) => lower source limit room construct q.stripped) =
        lower source limit room := by
      funext construct q
      exact ih construct q
    have same : Lowering.body source construct raw.stripped =
        (Lowering.body source construct raw).redirect RawNode.stripped :=
      Lowering.blind_body source construct raw
    rw [lower_succ, lower_succ, same, Lowering.run_redirect, below]

/-! ## Whole sources -/

namespace Entry

variable (entry : Entry)

theorem blind_lowering (source : String) : Lowering.Blind (entry.lowering source) := by
  cases entry with
  | compilationUnit => exact Lowering.blind_compilationUnit source
  | expression => exact Lowering.blind_soleExpression
  | statements => exact Lowering.blind_statementList source

/-- What passes the check is built as its tree without comments and flags is. -/
theorem build_of_stripped {config : BuildConfig} {parsed : ParseResult}
    (passes : checkDamage config parsed = .ok ()) :
    entry.build config parsed =
      (entry.lowering parsed.source parsed.root.stripped).run
        (lower parsed.source config.maxDepth config.maxDepth) := by
  have below : (fun construct (q : RawNode) =>
      lower parsed.source config.maxDepth config.maxDepth construct q.stripped) =
      lower parsed.source config.maxDepth config.maxDepth := by
    funext construct q
    exact lower_stripped parsed.source config.maxDepth config.maxDepth construct q
  have same : entry.lowering parsed.source parsed.root.stripped =
      (entry.lowering parsed.source parsed.root).redirect RawNode.stripped :=
    entry.blind_lowering parsed.source parsed.root
  rw [build_of_intact passes, same, Lowering.run_redirect, below]

end Entry

/-! ## The check -/

/-- A lenient build accepts supplied tokens. -/
theorem checkDamage_of_noError {parsed : ParseResult} {maxDepth : Nat}
    (intact : ∀ q ∈ parsed.root.reachable, ¬ q.isError) :
    checkDamage ⟨maxDepth, false⟩ parsed = .ok () := by
  unfold checkDamage
  rw [RawNode.firstError?_eq_none intact]
  split <;> rfl

/-- A tree with cleared flags passes every check. -/
theorem checkDamage_cleared (config : BuildConfig) (source : String) (root : RawNode) :
    checkDamage config ⟨source, root.cleared⟩ = .ok () := by
  have intact : (ParseResult.mk source root.cleared).hasErrors = false :=
    root.containsErrors_cleared
  rw [checkDamage, intact]
  rfl

/-! ## Two trees -/

/-- **Comments and flags of recovery do not matter.** Whatever the entry and the configuration: if
two trees of a source pass the check of damage and are the same once comments are removed and flags
are cleared at every level, their builds give the same tree or the same refusal. So a lenient build
of a tree in which no error is reached, only supplied tokens, is the strict build of the tree with
its flags cleared. -/
theorem build_unaffected (entry : Entry) :
    (∀ (config : BuildConfig) (parsed other : ParseResult),
      parsed.source = other.source → parsed.root.stripped = other.root.stripped →
        checkDamage config parsed = .ok () → checkDamage config other = .ok () →
          entry.build config parsed = entry.build config other) ∧
      ∀ (maxDepth : Nat) (parsed : ParseResult), (∀ q ∈ parsed.root.reachable, ¬ q.isError) →
        entry.build ⟨maxDepth, false⟩ parsed =
          entry.build ⟨maxDepth, true⟩ ⟨parsed.source, parsed.root.cleared⟩ := by
  constructor
  · intro config parsed other source root passes passesToo
    rw [entry.build_of_stripped passes, entry.build_of_stripped passesToo, source, root]
  · intro maxDepth parsed intact
    have passes : checkDamage ⟨maxDepth, false⟩ parsed = .ok () := checkDamage_of_noError intact
    have passesToo := checkDamage_cleared ⟨maxDepth, true⟩ parsed.source parsed.root
    rw [entry.build_of_stripped passes, entry.build_of_stripped passesToo,
      RawNode.stripped_cleared]

/-- The raw tree of `f/**/()` with a comment before the arguments and a supplied semicolon. -/
def unfinishedCall : ParseResult where
  source := "f/**/()"
  root :=
    .node ⟨"program", true, false, false, false, true, none, 0, 7, ⟨0, 0⟩, ⟨0, 7⟩⟩
      [.node ⟨"expression_statement", true, false, false, false, true, none, 0, 7, ⟨0, 0⟩, ⟨0, 7⟩⟩
        [.onLine "method_invocation" true none 0 7
          [.onLine "identifier" true (some "name") 0 1 [],
           .node ⟨"block_comment", true, false, false, true, false, none, 1, 5, ⟨0, 1⟩, ⟨0, 5⟩⟩ [],
           .onLine "argument_list" true (some "arguments") 5 7
            [.onLine "(" false none 5 6 [], .onLine ")" false none 6 7 []]],
         .node ⟨";", false, false, true, false, false, none, 7, 7, ⟨0, 7⟩, ⟨0, 7⟩⟩ []]]

/-- The same tree without the comment and with no token supplied. -/
def finishedCall : ParseResult := ⟨unfinishedCall.source, unfinishedCall.root.stripped⟩

theorem unfinishedCall_unaffected :
    unfinishedCall.root.stripped = finishedCall.root.stripped ∧
    checkDamage ⟨1, false⟩ unfinishedCall = .ok () ∧
    Entry.expression.build ⟨1, false⟩ unfinishedCall =
      Entry.expression.build ⟨1, false⟩ finishedCall ∧
    Entry.expression.build ⟨1, false⟩ unfinishedCall =
      Entry.expression.build ⟨1, true⟩ ⟨unfinishedCall.source, unfinishedCall.root.cleared⟩ ∧
    ∃ call, Entry.expression.build ⟨1, false⟩ finishedCall = .ok call := by
  have same : unfinishedCall.root.stripped = finishedCall.root.stripped := rfl
  have intact : ∀ q ∈ unfinishedCall.root.reachable, ¬ q.isError := by decide
  have passes : checkDamage ⟨1, false⟩ unfinishedCall = .ok () := checkDamage_of_noError intact
  have clean : checkDamage ⟨1, false⟩ finishedCall = .ok () := rfl
  have unaffected := build_unaffected .expression
  exact ⟨same, passes,
    unaffected.1 ⟨1, false⟩ unfinishedCall finishedCall rfl same passes clean,
    unaffected.2 1 unfinishedCall intact,
    _, (Entry.build_of_intact clean).trans rfl⟩

end JavaSyntax
