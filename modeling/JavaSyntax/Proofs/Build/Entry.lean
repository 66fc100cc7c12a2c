import JavaSyntax.Proofs.Lowering.Counter
import JavaSyntax.Tree.Node

/-!
# Entries — the ways to build a source, as one

A source is built as a compilation unit, as an expression or as statements. What holds of all builds
is stated once, over `Entry`.

* `Entry.answer_eq_build`: a builder, with its counter of depth, answers as a build does;
* `Entry.build_of_damage`, `Entry.build_of_intact`: a build looks at the damage first and then lowers
  the root.
-/

namespace JavaSyntax

/-- What a source can be built as. -/
inductive Entry where
  | compilationUnit
  | expression
  | statements
  deriving DecidableEq, Repr

namespace Entry

/-- What a build gives. -/
abbrev Result : Entry → Type
  | compilationUnit => CompilationUnit
  | expression => Expression
  | statements => List Statement

/-- Builds a parsed source. -/
def build : (entry : Entry) → BuildConfig → ParseResult → Except SyntaxError entry.Result
  | compilationUnit => buildCompilationUnit
  | expression => buildExpression
  | statements => buildStatements

/-- What the root of a source is lowered to. -/
def lowering : (entry : Entry) → String → RawNode → Lowering entry.Result
  | compilationUnit => Lowering.compilationUnit
  | expression => fun _ => Lowering.soleExpression
  | statements => Lowering.statementList

/-- The roots of the typed trees that a build gives. -/
def nodes : (entry : Entry) → entry.Result → List Node
  | compilationUnit, unit => [.compilationUnit unit]
  | expression, e => [e.node]
  | statements, ss => ss.map Statement.node

/-- Every build looks at the damage first and then lowers the root. -/
theorem build_eq (entry : Entry) (config : BuildConfig) (parsed : ParseResult) :
    entry.build config parsed = JavaSyntax.build config entry.lowering parsed := by
  cases entry <;> rfl

/-- What a builder answers for a parsed source. -/
def answer (entry : Entry) (builder : Builder) (parsed : ParseResult) :
    Except SyntaxError entry.Result :=
  (builder.build entry.lowering parsed).1

theorem answer_eq_build (entry : Entry) (builder : Builder) (parsed : ParseResult) :
    entry.answer builder parsed = entry.build builder.config parsed := by
  rw [answer, Builder.build_fst, build_eq]

variable {entry : Entry} {config : BuildConfig} {parsed : ParseResult} {error : SyntaxError}

/-- A build that is refused for damage gives that refusal. -/
theorem build_of_damage (h : checkDamage config parsed = .error error) :
    entry.build config parsed = .error error := by
  rw [build_eq, JavaSyntax.build, h]
  rfl

/-- A build that is not refused for damage lowers the root. -/
theorem build_of_intact (h : checkDamage config parsed = .ok ()) :
    entry.build config parsed =
      (entry.lowering parsed.source parsed.root).run
        (lower parsed.source config.maxDepth config.maxDepth) := by
  rw [build_eq, JavaSyntax.build, h]
  rfl

/-- What is built was not refused for damage. -/
theorem intact_of_build {tree : entry.Result} (h : entry.build config parsed = .ok tree) :
    checkDamage config parsed = .ok () := by
  cases hc : checkDamage config parsed with
  | ok => rfl
  | error error =>
    rw [build_of_damage hc] at h
    exact absurd h (by simp)

end Entry

end JavaSyntax
