import JavaSyntax.Proofs.Lowering.Requests

/-!
# Room — what the limit of nesting decides

With more room a construct either was refused as too deep before, or is lowered to what it was
(`lower_settles`): the steps before the first refusal are the same steps. And room runs out only in
deep trees: what a construct asks for has a smaller rank than the construct, so with as much room as
its rank nothing is too deep (`refusal_of_lower`).
-/

namespace JavaSyntax

variable {α : Type} {source : String} {limit limit' room room' : Nat}

/-! ## More room -/

/-- Whether an answer that was given under a limit stands: it is too deep, or the other is the
same. -/
def Settles (limit : Nat) (answer other : Except SyntaxError α) : Prop :=
  (∃ q : RawNode, answer = .error (q.tooDeep limit)) ∨ other = answer

namespace Settles

variable {answer other : Except SyntaxError α}

theorem refl (answer : Except SyntaxError α) : Settles limit answer answer := .inr rfl

theorem ok {a : α} (h : Settles limit answer other) (ha : answer = .ok a) : other = .ok a := by
  rcases h with ⟨q, hq⟩ | h
  · rw [ha] at hq
    exact absurd hq (by simp)
  · rw [h, ha]

theorem error {error : SyntaxError} (h : Settles limit answer other)
    (he : answer = .error error)
    (shallow : ∀ m line column, error ≠ .nestingTooDeep m line column) : other = .error error := by
  rcases h with ⟨q, hq⟩ | h
  · rw [he, Except.error.injEq] at hq
    exact absurd hq (shallow _ _ _)
  · rw [h, he]

end Settles

/-- A run stands if the answers that it was given stand. -/
theorem Lowering.run_settles
    {below below' : (construct : Construct) → RawNode → Except SyntaxError construct.Result}
    (h : ∀ construct raw, Settles limit (below construct raw) (below' construct raw))
    (x : Lowering α) : Settles limit (x.run below) (x.run below') := by
  induction x with
  | done a => exact .refl _
  | refuse error => exact .refl _
  | nested construct raw next ih =>
    rw [run, run]
    rcases h construct raw with ⟨q, hq⟩ | same
    · left
      exact ⟨q, by rw [hq]⟩
    · rw [same]
      cases below construct raw with
      | ok result => exact ih result
      | error error => exact .refl _

/-- **More room changes nothing but what was too deep.** -/
theorem lower_settles (h : room ≤ room') (construct : Construct) (raw : RawNode) :
    Settles limit (lower source limit room construct raw)
      (lower source limit' room' construct raw) := by
  induction room generalizing room' construct raw with
  -- without room the construct itself is refused as too deep
  | zero => exact .inl ⟨raw, lower_zero source limit construct raw⟩
  | succ room ih =>
    obtain ⟨room', rfl⟩ := Nat.exists_eq_add_of_le' (Nat.le_trans (Nat.succ_pos room) h)
    rw [lower_succ, lower_succ]
    exact Lowering.run_settles (ih (Nat.le_of_succ_le_succ h)) _

/-! ## Enough room -/

/-- How many levels a construct can nest at most. A statement counts one more than the type
declaration that it may be. -/
def Construct.rank (construct : Construct) (raw : RawNode) : Nat :=
  2 * raw.nodes.length + if construct = .statement then 1 else 0

/-- What a construct asks for has a smaller rank. -/
theorem Construct.rank_lt {construct requested : Construct} {raw q : RawNode}
    (h : construct.MayAsk raw requested q) : requested.rank q < construct.rank raw := by
  unfold rank
  rcases h with h | ⟨rfl, rfl, rfl⟩
  · have := h.length_nodes_lt
    split <;> split <;> omega
  · simp

/-- An error of a lowering is the refusal of a node that it holds, or one of them lies too deep. -/
theorem error_of_lower {construct : Construct} {raw : RawNode} {error : SyntaxError}
    (h : lower source limit room construct raw = .error error) :
    raw.Refusal error ∨ ∃ q ∈ raw.nodes, error = q.tooDeep limit := by
  induction room generalizing construct raw with
  | zero =>
    rw [lower_zero, Except.error.injEq] at h
    exact .inr ⟨raw, raw.mem_nodes_self, h.symm⟩
  | succ room ih =>
    rw [lower_succ] at h
    rcases (Lowering.body_confined source raw construct).run_error h with
      h | ⟨requested, q, asked, h⟩
    · exact .inl h
    · have inside := asked.mem_nodes
      rcases ih h with h | ⟨s, hs, h⟩
      · exact .inl (h.mono inside)
      · exact .inr ⟨s, RawNode.mem_nodes_trans inside hs, h⟩

/-- **With as much room as its rank, no part of a construct lies too deep.** -/
theorem refusal_of_lower {construct : Construct} {raw : RawNode} {error : SyntaxError}
    (enough : construct.rank raw ≤ room)
    (h : lower source limit room construct raw = .error error) : raw.Refusal error := by
  induction room generalizing construct raw with
  | zero =>
    have := raw.length_nodes_pos
    unfold Construct.rank at enough
    omega
  | succ room ih =>
    rw [lower_succ] at h
    rcases (Lowering.body_confined source raw construct).run_error h with
      h | ⟨requested, q, asked, h⟩
    · exact h
    -- what is asked for has a smaller rank, so there is enough room for it as well
    · have := Construct.rank_lt asked
      exact (ih (by omega) h).mono asked.mem_nodes

end JavaSyntax
