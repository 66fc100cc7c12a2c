import JavaSyntax.Lowering.Run
import Mathlib.Data.List.Forall2

/-!
# Results of a run — what a lowering gives, step by step

A run that gives a result was refused nowhere, so each of its steps gave one. `Lowering.Gives` says
that a part is lowered to a result; the lemmas take a run apart into its steps, an optional part by
`Option.Rel` and a list of parts by `List.Forall₂`.

* `run_bind_eq_ok`, `run_optional_eq_ok`, `run_each_eq_ok` and so on: the steps of a run;
* `lower_induction`: what every construct keeps if its requests keep it, holds of all that is
  lowered.

The lemmas are equivalences, so a run can be taken apart and put together by the same ones. The first is
needed for what is known to be lowered, the second where it has to be shown that something is.
-/

namespace JavaSyntax

/-- How nested constructs are lowered. -/
abbrev Answers : Type :=
  (construct : Construct) → RawNode → Except SyntaxError construct.Result

namespace Lowering

variable {α β : Type} {below : Answers}

/-- Whether a part is lowered to a result. -/
def Gives (below : Answers) (lower : β → Lowering α) (part : β) (result : α) : Prop :=
  (lower part).run below = .ok result

/-- Whether a lowering gives a result. -/
def Lowers (below : Answers) (x : Lowering α) : Prop := ∃ a, x.run below = .ok a

/-! ## Steps -/

@[simp] theorem run_pure_eq_ok {a b : α} : (pure a : Lowering α).run below = .ok b ↔ a = b := by
  rw [pure_eq, run, Except.ok.injEq]

/-- The first step gives something, and what follows gives the result. -/
@[simp] theorem run_bind_eq_ok {x : Lowering α} {f : α → Lowering β} {b : β} :
    (x >>= f).run below = .ok b ↔ ∃ a, x.run below = .ok a ∧ (f a).run below = .ok b := by
  rw [run_bind]
  cases x.run below with
  | error e => exact ⟨nofun, fun ⟨_, h, _⟩ => nomatch h⟩
  | ok a => exact ⟨fun h => ⟨a, rfl, h⟩, fun ⟨_, rfl, h⟩ => h⟩

@[simp] theorem run_unsupported_eq_ok {raw : RawNode} {a : α} :
    (unsupported raw : Lowering α).run below = .ok a ↔ False :=
  ⟨nofun, False.elim⟩

/-- A checked construction gives what it makes. -/
@[simp] theorem run_checked_eq_ok {made : Except TreeError α} {a : α} :
    (checked made).run below = .ok a ↔ made = .ok a := by
  cases made <;> simp [checked, run]

/-- A request gives what it is answered. -/
theorem run_request {construct : Construct} {raw : RawNode} :
    (nested construct raw done).run below = below construct raw := by
  rw [run]
  cases below construct raw <;> rfl

theorem run_expression {raw : RawNode} : (expression raw).run below = below .expression raw :=
  run_request

theorem run_typeExpression {raw : RawNode} : (typeExpression raw).run below = below .type raw :=
  run_request

theorem gives_request {construct : Construct} {raw : RawNode} {result : construct.Result}
    (h : (nested construct raw done).run below = .ok result) : below construct raw = .ok result := by
  rwa [run_request] at h

/-! ## Parts -/

/-- A part that is absent gives nothing, and a part that is there gives what it is lowered to. -/
@[simp] theorem run_optional_eq_ok {lower : β → Lowering α} {part : Option β} {result : Option α} :
    (optional lower part).run below = .ok result ↔ Option.Rel (Gives below lower) part result := by
  cases part with
  | none =>
    rw [optional, run_pure_eq_ok]
    constructor
    · rintro rfl
      exact .none
    · rintro ⟨⟩
      rfl
  | some p =>
    simp only [optional, run_bind_eq_ok, run_pure_eq_ok]
    constructor
    · rintro ⟨a, h, rfl⟩
      exact .some h
    · rintro ⟨⟩
      exact ⟨_, ‹Gives below lower p _›, rfl⟩

/-- Results come in the order of the parts, one for each. -/
@[simp] theorem run_each_eq_ok {lower : β → Lowering α} {parts : List β} {results : List α} :
    (each lower parts).run below = .ok results ↔
      List.Forall₂ (Gives below lower) parts results := by
  induction parts generalizing results with
  | nil => rw [each, run_pure_eq_ok, List.forall₂_nil_left_iff, eq_comm]
  | cons p rest ih =>
    simp only [each, run_bind_eq_ok, run_pure_eq_ok, ih, List.forall₂_cons_left_iff]
    constructor
    · rintro ⟨a, h, as, hs, rfl⟩
      exact ⟨a, as, h, hs, rfl⟩
    · rintro ⟨a, as, h, hs, rfl⟩
      exact ⟨a, h, as, hs, rfl⟩

/-- The named children of a list that may be absent. -/
def items (list : Option RawNode) : List RawNode := (list.map RawNode.namedChildren).getD []

@[simp] theorem run_listed_eq_ok {lower : RawNode → Lowering α} {list : Option RawNode}
    {results : List α} :
    (listed lower list).run below = .ok results ↔
      List.Forall₂ (Gives below lower) (items list) results := by
  cases list with
  | none => rw [listed, run_pure_eq_ok, items, Option.map_none, Option.getD_none,
      List.forall₂_nil_left_iff, eq_comm]
  | some found => exact run_each_eq_ok

/-- Each part gives a list, and the lists are joined in order. -/
@[simp] theorem run_gather_eq_ok {lower : β → Lowering (List α)} {parts : List β}
    {results : List α} :
    (gather lower parts).run below = .ok results ↔
      ∃ groups, List.Forall₂ (Gives below lower) parts groups ∧ groups.flatten = results := by
  simp only [gather, run_bind_eq_ok, run_pure_eq_ok, run_each_eq_ok]

/-! ## Results and their parts -/

section

variable {R : α → β → Prop} {b : β}

theorem exists_of_rel_some {part : Option α} (h : Option.Rel R part (some b)) :
    ∃ a, part = some a ∧ R a b := by
  cases h with
  | some h => exact ⟨_, rfl, h⟩

/-- A part that has given something is there. -/
theorem exists_of_rel {part : Option α} {result : Option β} (h : Option.Rel R part result)
    (hb : result = some b) : ∃ a, part = some a ∧ R a b :=
  exists_of_rel_some (hb ▸ h)

/-- A result in a list was given by some part. -/
theorem exists_of_forall₂ {parts : List α} {results : List β} (h : List.Forall₂ R parts results)
    (hb : b ∈ results) : ∃ a ∈ parts, R a b := by
  induction h with
  | nil => exact absurd hb List.not_mem_nil
  | cons hr _ ih =>
    rcases List.mem_cons.mp hb with rfl | hb
    · exact ⟨_, List.mem_cons_self, hr⟩
    · obtain ⟨a, ha, hr⟩ := ih hb
      exact ⟨a, List.mem_cons_of_mem _ ha, hr⟩

/-- If each part gives something, all of them do. -/
theorem exists_forall₂ {parts : List α} (h : ∀ a ∈ parts, ∃ b, R a b) :
    ∃ results, List.Forall₂ R parts results := by
  induction parts with
  | nil => exact ⟨[], .nil⟩
  | cons a rest ih =>
    obtain ⟨b, hb⟩ := h a List.mem_cons_self
    obtain ⟨results, made⟩ := ih fun a' ha' => h a' (List.mem_cons_of_mem a ha')
    exact ⟨b :: results, .cons hb made⟩

/-- The order of parts carries over to their results. -/
theorem pairwise_of_forall₂ {S : α → α → Prop} {T : β → β → Prop} {parts : List α} {results : List β}
    (order : parts.Pairwise S) (h : List.Forall₂ R parts results)
    (carry : ∀ {a a' b b'}, S a a' → R a b → R a' b' → T b b') : results.Pairwise T := by
  induction h with
  | nil => exact .nil
  | cons hr rest ih =>
    rw [List.pairwise_cons] at order
    refine .cons (fun b' hb' => ?_) (ih order.2)
    obtain ⟨a', ha', hr'⟩ := exists_of_forall₂ rest hb'
    exact carry (order.1 a' ha') hr hr'

/-- Results split where the parts do. -/
theorem exists_append_of_forall₂ {as bs : List α} {results : List β}
    (h : List.Forall₂ R (as ++ bs) results) :
    ∃ xs ys, results = xs ++ ys ∧ List.Forall₂ R as xs ∧ List.Forall₂ R bs ys :=
  ⟨_, _, (List.take_append_drop as.length results).symm,
    .flip (List.forall₂_take_append results as bs (.flip h)),
    .flip (List.forall₂_drop_append results as bs (.flip h))⟩

end

/-! ## Parts and their neighbours -/

section

variable {lower : β → Lowering (List α)} {as bs : List β} {results : List α}

/-- Two stretches of parts give their results one after the other. -/
theorem run_gather_append :
    (gather lower (as ++ bs)).run below = .ok results ↔
      ∃ xs ys, (gather lower as).run below = .ok xs ∧ (gather lower bs).run below = .ok ys ∧
        results = xs ++ ys := by
  simp only [run_gather_eq_ok]
  constructor
  · rintro ⟨groups, given, rfl⟩
    obtain ⟨xs, ys, rfl, hxs, hys⟩ := exists_append_of_forall₂ given
    exact ⟨xs.flatten, ys.flatten, ⟨xs, hxs, rfl⟩, ⟨ys, hys, rfl⟩, List.flatten_append⟩
  · rintro ⟨xs, ys, ⟨gs, hgs, rfl⟩, ⟨hs, hhs, rfl⟩, rfl⟩
    exact ⟨gs ++ hs, List.rel_append hgs hhs, List.flatten_append⟩

/-- What one part makes stands between what the parts before it and those after it make. -/
theorem run_gather_around {b : β} :
    (gather lower (as ++ b :: bs)).run below = .ok results ↔
      ∃ xs made ys, (gather lower as).run below = .ok xs ∧ (lower b).run below = .ok made ∧
        (gather lower bs).run below = .ok ys ∧ results = xs ++ made ++ ys := by
  rw [run_gather_append]
  simp only [run_gather_eq_ok, List.forall₂_cons_left_iff]
  constructor
  · rintro ⟨xs, _, before, ⟨_, ⟨made, groups, given, after, rfl⟩, rfl⟩, rfl⟩
    exact ⟨xs, made, groups.flatten, before, given, ⟨groups, after, rfl⟩, by simp⟩
  · rintro ⟨xs, made, _, before, given, ⟨groups, after, rfl⟩, rfl⟩
    exact ⟨xs, _, before, ⟨_, ⟨made, groups, given, after, rfl⟩, rfl⟩, by simp⟩

theorem run_gather_between {b : β} {made : List α} (given : (lower b).run below = .ok made) :
    (gather lower (as ++ b :: bs)).run below = .ok results ↔
      ∃ xs ys, (gather lower as).run below = .ok xs ∧ (gather lower bs).run below = .ok ys ∧
        results = xs ++ made ++ ys := by
  rw [run_gather_around]
  constructor
  · rintro ⟨xs, _, ys, before, given', after, rfl⟩
    cases given.symm.trans given'
    exact ⟨xs, ys, before, after, rfl⟩
  · rintro ⟨xs, ys, before, after, rfl⟩
    exact ⟨xs, made, ys, before, given, after, rfl⟩

end

end Lowering

/-! ## All constructs -/

/-- **Induction on what is lowered.** A statement about constructs, their nodes and their results
holds of everything that is lowered, if it holds of what a construct consists of as soon as it holds
of all that the construct asks for. -/
theorem lower_induction {source : String} {limit room : Nat}
    {motive : (construct : Construct) → RawNode → construct.Result → Prop}
    (body : ∀ below : Answers,
      (∀ construct raw result, below construct raw = .ok result → motive construct raw result) →
      ∀ construct raw result, (Lowering.body source construct raw).run below = .ok result →
        motive construct raw result)
    {construct : Construct} {raw : RawNode} {result : construct.Result}
    (h : lower source limit room construct raw = .ok result) : motive construct raw result := by
  induction room generalizing construct raw with
  | zero => exact absurd h (by simp [lower])
  | succ room ih => exact body _ (fun _ _ _ => ih) construct raw result h

/-! ## What a run comes to -/

namespace Lowering

variable {α : Type} {source : String} {limit room : Nat} {construct : Construct} {raw : RawNode}

/-- Whether a run asks for a construct, after the answers that its earlier requests were given. -/
def Asks (below : Answers) (construct : Construct) (raw : RawNode) : Lowering α → Prop
  | done _ => False
  | refuse _ => False
  | nested requested q next =>
    (requested = construct ∧ q = raw) ∨
      ∃ result, below requested q = .ok result ∧ Asks below construct raw (next result)

/-- A run that gives a result had an answer to everything it asked for. -/
theorem Asks.answered {below : Answers} {x : Lowering α} {a : α} (h : Asks below construct raw x)
    (made : x.run below = .ok a) : ∃ result, below construct raw = .ok result := by
  induction x with
  | done => exact h.elim
  | refuse => exact h.elim
  | nested requested q next ih =>
    rw [run] at made
    rcases h with ⟨rfl, rfl⟩ | ⟨result, answered, later⟩
    · cases answered : below requested q with
      | ok result => exact ⟨result, rfl⟩
      | error =>
        rw [answered] at made
        cases made
    · rw [answered] at made
      exact ih result later made

/-- Whether a run comes to a construct: asks for it, or for one that comes to it. -/
inductive ComesTo (source : String) (limit : Nat) (construct : Construct) (raw : RawNode) :
    (room : Nat) → {α : Type} → Lowering α → Prop where
  | asked {level : Nat} {β : Type} {x : Lowering β}
      (asks : Asks (lower source limit level) construct raw x) :
      ComesTo source limit construct raw level x
  | inside {level : Nat} {β : Type} {x : Lowering β} {requested : Construct} {q : RawNode}
      (asks : Asks (lower source limit (level + 1)) requested q x)
      (comes : ComesTo source limit construct raw level (body source requested q)) :
      ComesTo source limit construct raw (level + 1) x

/-- All that a run comes to is lowered if the run gives a result. -/
theorem ComesTo.lowered {x : Lowering α} {a : α} (h : ComesTo source limit construct raw room x)
    (made : x.run (lower source limit room) = .ok a) :
    ∃ room result, lower source limit room construct raw = .ok result := by
  induction h with
  | asked asks => exact ⟨_, asks.answered made⟩
  | inside asks _ ih =>
    obtain ⟨result, answered⟩ := asks.answered made
    exact ih answered

end Lowering

end JavaSyntax
