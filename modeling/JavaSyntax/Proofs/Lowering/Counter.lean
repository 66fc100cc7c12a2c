import JavaSyntax.Builder

/-!
# Counter — a counter of depth answers as the room does

A run with a counter carries one number through all steps, where a run with room (`lower`) says at
each request how much is left. The two agree because every request gives the counter back as it got
it: at depth `d` there is room for `limit - d` more levels, before a request and after it. A limit
beyond the largest counter is never reached by it, and there the counter need only stay small.

* `Lowering.count_eq_run`: a run keeps what each request keeps, and answers alike;
* `Lowering.count_eq_of_kept`: a run among requests that give the counter back;
* `Builder.build_fst`: a builder answers as a build under its configuration, wherever its counter
  stands.
-/

namespace JavaSyntax

variable {α : Type} {source : String} {limit room depth : Nat}

/-! ## Steps -/

/-- If requests answer alike at the depths that `Level` allows and leave the counter at such a depth,
so does a run. -/
theorem Lowering.count_eq_run (Level : Nat → Prop)
    {counted : (construct : Construct) → RawNode → Nat → Counted construct.Result}
    {below : (construct : Construct) → RawNode → Except SyntaxError construct.Result}
    (h : ∀ construct raw depth, Level depth →
      (counted construct raw depth).1 = below construct raw ∧
        Level (counted construct raw depth).2)
    (x : Lowering α) (hd : Level depth) :
    (x.count counted depth).1 = x.run below ∧ Level (x.count counted depth).2 := by
  induction x generalizing depth with
  | done a => exact ⟨rfl, hd⟩
  | refuse error => exact ⟨rfl, hd⟩
  | nested construct raw next ih =>
    obtain ⟨answer, kept⟩ := h construct raw depth hd
    rw [count, run, ← answer]
    -- the counter stands at an allowed depth again, so the rest of the run goes on from there
    generalize counted construct raw depth = given at kept
    rcases given with ⟨error | result, after⟩
    · exact ⟨rfl, kept⟩
    · exact ih result kept

/-- Where every request gives the counter back, a run does so too, and never sees it elsewhere. -/
theorem Lowering.count_eq_of_kept
    {counted : (construct : Construct) → RawNode → Nat → Counted construct.Result}
    (kept : ∀ construct raw, (counted construct raw depth).2 = depth) (x : Lowering α) :
    x.count counted depth =
      (x.run fun construct raw => (counted construct raw depth).1, depth) := by
  have requests (construct : Construct) (raw : RawNode) (d : Nat) (hd : d = depth) :
      (counted construct raw d).1 = (counted construct raw depth).1 ∧
        (counted construct raw d).2 = depth := by
    rw [hd]
    exact ⟨rfl, kept construct raw⟩
  obtain ⟨answer, back⟩ := count_eq_run (· = depth) requests x rfl
  exact Prod.ext answer back

/-! ## Requests -/

/-- A request is answered as there is room for it, and gives the counter back. -/
theorem enter_eq_lower (source : String) (small : limit ≤ counterLimit) (h : room ≤ limit)
    (construct : Construct) (raw : RawNode) :
    enter source limit room construct raw (limit - room) =
      (lower source limit room construct raw, limit - room) := by
  induction room generalizing construct raw with
  | zero => rfl
  | succ room ih =>
    -- one level deeper there is room for one level less, and the counter has not met the limit
    have deeper : min (limit - (room + 1) + 1) counterLimit = limit - room := by omega
    have open_ : ¬ limit ≤ limit - (room + 1) := by omega
    have inside := ih (Nat.le_of_succ_le h)
    have back : limit - room - 1 = limit - (room + 1) := by omega
    rw [enter, if_neg open_, deeper, lower_succ,
      Lowering.count_eq_of_kept fun construct raw => by rw [inside]]
    simp only [inside, back]

/-- A limit beyond the largest counter is never met: only room ends the nesting. -/
theorem enter_eq_lower_of_lt (large : counterLimit < limit) (construct : Construct) (raw : RawNode)
    (h : depth ≤ counterLimit) :
    (enter source limit room construct raw depth).1 = lower source limit room construct raw ∧
      (enter source limit room construct raw depth).2 ≤ counterLimit := by
  induction room generalizing construct raw depth with
  | zero => exact ⟨rfl, h⟩
  | succ room ih =>
    have open_ : ¬ limit ≤ depth := by omega
    obtain ⟨answer, kept⟩ := Lowering.count_eq_run (· ≤ counterLimit)
      (fun construct raw _ hd => ih construct raw hd) (Lowering.body source construct raw)
      (Nat.min_le_right (depth + 1) counterLimit)
    rw [enter, if_neg open_, lower_succ]
    exact ⟨answer, Nat.le_trans (Nat.sub_le _ 1) kept⟩

/-! ## Builders -/

/-- **A builder answers as a build under its configuration.** Where its counter stands makes no
difference, since a build starts it anew. -/
theorem Builder.build_fst (builder : Builder) (entry : String → RawNode → Lowering α)
    (parsed : ParseResult) :
    (builder.build entry parsed).1 = JavaSyntax.build builder.config entry parsed := by
  unfold Builder.build JavaSyntax.build
  cases checkDamage builder.config parsed with
  | error error => rfl
  | ok _ =>
    show (Lowering.count _ _ 0).1 = Lowering.run _ _
    -- a counter that can meet the limit is followed exactly, any other only has to stay small
    rcases Nat.lt_or_ge counterLimit builder.config.maxDepth with large | small
    · exact (Lowering.count_eq_run (· ≤ counterLimit)
        (fun construct raw _ hd => enter_eq_lower_of_lt large construct raw hd) _
        (Nat.zero_le counterLimit)).1
    · have whole := enter_eq_lower parsed.source small (Nat.le_refl builder.config.maxDepth)
      simp only [Nat.sub_self] at whole
      rw [Lowering.count_eq_of_kept fun construct raw => by rw [whole]]
      simp only [whole]

end JavaSyntax
