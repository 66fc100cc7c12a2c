import JavaSyntax.Proofs.Build.Entry
import JavaSyntax.Proofs.Lowering.Balance
import JavaSyntax.Proofs.Raw.Nodes

/-!
# Sessions — one builder for many sources

A builder is used again and again, also after builds that failed halfway. Nothing of a build is left
in it: its configuration never changes, and its counter of depth is at zero after every build, since
a build starts it there and every lowering gives it back.

* `Builder.build_snd`: the builder after a build;
* `Builder.log`: a build with a log of the moves of the counter;
* `Builder.serve_eq`: a session answers each source as a builder of its own would;
* `counter_balanced`: what holds of the counter in lowerings, builds and sessions.
-/

namespace JavaSyntax

variable {α : Type}

/-! ## One build -/

/-- **A build leaves nothing behind.** With a tree and with an error alike, the builder afterwards has
its configuration and depth zero. -/
theorem Builder.build_snd (builder : Builder) (small : builder.config.maxDepth ≤ counterLimit)
    (entry : String → RawNode → Lowering α) (parsed : ParseResult) :
    (builder.build entry parsed).2 = ⟨builder.config, 0⟩ := by
  unfold Builder.build
  cases checkDamage builder.config parsed with
  | error error => rfl
  | ok _ =>
    show Builder.mk _ (Lowering.count _ _ 0).2 = _
    rw [Lowering.count_snd (enter_snd small)]

/-- A build from depth zero as `Builder.build` does it, with a log of the moves of the counter. -/
def Builder.log (builder : Builder) (entry : String → RawNode → Lowering α) (parsed : ParseResult) :
    (Except SyntaxError α × Builder) × List Move :=
  match checkDamage builder.config parsed with
  | .error error => ((.error error, { builder with depth := 0 }), [])
  | .ok () =>
    let limit := builder.config.maxDepth
    let logged := (entry parsed.source parsed.root).log (enterLog parsed.source limit limit) 0
    ((logged.1.1, { builder with depth := logged.1.2 }), logged.2)

/-- Without its log a logged build is the build itself. -/
theorem Builder.log_fst (builder : Builder) (entry : String → RawNode → Lowering α)
    (parsed : ParseResult) : (builder.log entry parsed).1 = builder.build entry parsed := by
  unfold Builder.log Builder.build
  cases checkDamage builder.config parsed with
  | error error => rfl
  | ok _ => simp only [Lowering.log_fst enterLog_fst]

/-- The moves of a build lead from zero to zero. -/
theorem Builder.walk_log (builder : Builder) (small : builder.config.maxDepth ≤ counterLimit)
    (entry : String → RawNode → Lowering α) (parsed : ParseResult) :
    Walk builder.config.maxDepth 0 (builder.log entry parsed).2 0 := by
  unfold Builder.log
  split
  · exact .stay 0
  · exact Lowering.walk_log small _ 0

/-! ## Many builds -/

/-- A source to build, and what to build it as. -/
structure Job where
  entry : Entry
  parsed : ParseResult

/-- The answer to a job, and the depth at which the builder stands after it. -/
abbrev Job.Answer (job : Job) : Type := Counted job.entry.Result

/-- What a new builder of that configuration answers to a job. -/
def Job.alone (config : BuildConfig) (job : Job) : Except SyntaxError job.entry.Result :=
  job.entry.answer ⟨config, 0⟩ job.parsed

/-- Does jobs one after the other, each with the builder that the one before it left. -/
def Builder.serve (builder : Builder) : List Job → List (Σ job : Job, job.Answer)
  | [] => []
  | job :: rest =>
    let built := builder.build job.entry.lowering job.parsed
    ⟨job, built.1, built.2.depth⟩ :: built.2.serve rest

/-- **A builder answers every job as a new one would**, and stands at zero after each. -/
theorem Builder.serve_eq (builder : Builder) (small : builder.config.maxDepth ≤ counterLimit)
    (jobs : List Job) :
    builder.serve jobs = jobs.map fun job => ⟨job, job.alone builder.config, 0⟩ := by
  induction jobs generalizing builder with
  | nil => rfl
  | cons job rest ih =>
    have fresh := builder.build_snd small job.entry.lowering job.parsed
    have alone : (builder.build job.entry.lowering job.parsed).1 = job.alone builder.config := by
      rw [Builder.build_fst, Job.alone, Entry.answer, Builder.build_fst]
    rw [serve, fresh, alone, ih ⟨builder.config, 0⟩ small, List.map_cons]

/-- **The counter of depth is balanced, and builders are reusable.** Let the limit of nesting be a
machine word. Every lowering of every construct, from whatever depth it starts, leaves the counter
where it found it, and so does every lowering at all, whatever it asks for and however it ends; on the
way the counter goes up and down by exactly one within the limit, and in a build it goes from zero to
zero. The moves are those of a log, and without it the logged runs and builds are the runs and builds
themselves. Nothing but the limit ends the nesting: a construct is refused at the limit, and below it
the counter is raised by one, the construct is lowered, and the counter is lowered by one. So a builder
that has done any jobs with any outcomes does the next as a new one would. -/
theorem counter_balanced (b : Builder) (small : b.config.maxDepth ≤ counterLimit) :
    (∀ source room construct raw depth,
      (enter source b.config.maxDepth room construct raw depth).2 = depth ∧
      (enterLog source b.config.maxDepth room construct raw depth).1 =
        enter source b.config.maxDepth room construct raw depth ∧
      Walk b.config.maxDepth depth
        (enterLog source b.config.maxDepth room construct raw depth).2 depth) ∧
    (∀ source construct raw depth,
      enter source b.config.maxDepth b.config.maxDepth construct raw depth =
        if b.config.maxDepth ≤ depth then (.error (raw.tooDeep b.config.maxDepth), depth)
        else
          let answer := (Lowering.body source construct raw).count
            (enter source b.config.maxDepth b.config.maxDepth) (depth + 1)
          (answer.1, answer.2 - 1)) ∧
    (∀ (α : Type) (x : Lowering α) source room depth,
      (x.count (enter source b.config.maxDepth room) depth).2 = depth ∧
      (x.log (enterLog source b.config.maxDepth room) depth).1 =
        x.count (enter source b.config.maxDepth room) depth ∧
      Walk b.config.maxDepth depth
        (x.log (enterLog source b.config.maxDepth room) depth).2 depth) ∧
    (∀ (entry : Entry) parsed,
      (b.log entry.lowering parsed).1 = b.build entry.lowering parsed ∧
      Walk b.config.maxDepth 0 (b.log entry.lowering parsed).2 0 ∧
      ∀ move ∈ (b.log entry.lowering parsed).2, move.Within b.config.maxDepth) ∧
    (∀ jobs, b.serve jobs = jobs.map fun job => ⟨job, job.alone b.config, 0⟩) := by
  refine ⟨?_, ?_, ?_, ?_, ?_⟩
  · intro source room construct raw depth
    exact ⟨enter_snd small construct raw depth, enterLog_fst construct raw depth,
      walk_enterLog small construct raw depth⟩
  · intro source construct raw depth
    exact enter_eq small construct raw depth
  · intro α x source room depth
    exact ⟨Lowering.count_snd (enter_snd small) x depth, Lowering.log_fst enterLog_fst x depth,
      Lowering.walk_log small x depth⟩
  · intro entry parsed
    have walk := b.walk_log small entry.lowering parsed
    exact ⟨b.log_fst entry.lowering parsed, walk, walk.within⟩
  · exact b.serve_eq small

open RawNode (onLine) in
/-- The raw tree of `a;`, an expression one level inside a statement. -/
def nameInStatement : ParseResult where
  source := "a;"
  root :=
    onLine "program" true none 0 2
      [onLine "expression_statement" true none 0 2
        [onLine "identifier" true none 0 1 [], onLine ";" false none 1 2 []]]

/-- A limit of one level is met by the statement, but not by the expression, which is built after
that failure as before it. The statement has been entered and left by then. -/
theorem nameInStatement_balanced : 1 ≤ counterLimit ∧
    ((Builder.mk ⟨1, true⟩ 7).log Entry.statements.lowering nameInStatement).2 =
      [.raise 0 1, .lower 1 0] ∧ ∃ e,
    Builder.serve ⟨⟨1, true⟩, 7⟩
        [⟨.expression, nameInStatement⟩, ⟨.statements, nameInStatement⟩,
          ⟨.expression, nameInStatement⟩] =
      [⟨⟨.expression, nameInStatement⟩, .ok e, 0⟩,
        ⟨⟨.statements, nameInStatement⟩, .error (.nestingTooDeep 1 1 1), 0⟩,
        ⟨⟨.expression, nameInStatement⟩, .ok e, 0⟩] := by
  have small : (Builder.mk ⟨1, true⟩ 7).config.maxDepth ≤ counterLimit := by decide
  have expression : ∃ e, Job.alone ⟨1, true⟩ ⟨.expression, nameInStatement⟩ = .ok e :=
    ⟨_, (Entry.answer_eq_build _ _ _).trans ((Entry.build_of_intact rfl).trans rfl)⟩
  have statements : Job.alone ⟨1, true⟩ ⟨.statements, nameInStatement⟩ =
      .error (.nestingTooDeep 1 1 1) :=
    (Entry.answer_eq_build _ _ _).trans ((Entry.build_of_intact rfl).trans rfl)
  obtain ⟨e, expression⟩ := expression
  refine ⟨small, rfl, e, ?_⟩
  rw [(counter_balanced ⟨⟨1, true⟩, 7⟩ small).2.2.2.2, List.map_cons, List.map_cons, List.map_cons,
    List.map_nil, expression, statements]

end JavaSyntax
