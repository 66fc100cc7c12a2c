import JavaSyntax.Proofs.Lowering.Forms.Statement
import JavaSyntax.Proofs.Build.Entry
import Mathlib.Data.List.SplitBy

/-!
# Switches — how groups of labels become cases

In the raw tree of a switch every label begins a group of its own, so that of several labels before one
list of statements all but the last have groups without statements. Such a group joins the next one, and
groups without statements at the end of the switch make a case of their own.

* `LoweredGroup`: a raw group with its labels and its statements;
* `LoweredGroup.runs`: groups that join, each run being groups without statements and the one with
  statements that ends them;
* `MergedFrom`: the case that one run makes;
* `run_caseGroups_iff`: what is pending is what the groups before it make, and the cases are the runs;
* `lower_switch`: nothing is lost, repeated or put in another order.
-/

namespace JavaSyntax

namespace Lowering

variable {below : Answers}

/-! ## Groups and runs -/

/-- A group of a switch with the labels and the statements that it is lowered to. -/
structure LoweredGroup where
  raw : RawNode
  labels : List CaseLabel
  body : List Statement

namespace LoweredGroup

/-- Whether a child of a switch body is a group and is lowered to what is given. -/
def Of (below : Answers) (child : RawNode) (g : LoweredGroup) : Prop :=
  g.raw = child ∧ child.tag = "switch_block_statement_group" ∧
    below .caseGroup child = .ok (g.labels, g.body)

/-- Groups without statements go together with the group after them. -/
def runs (groups : List LoweredGroup) : List (List LoweredGroup) :=
  groups.splitBy fun g _ => g.body.isEmpty

end LoweredGroup

open LoweredGroup

variable {groups pre run : List LoweredGroup} {g : LoweredGroup} {c : CaseGroup}

/-- Whether a case is made of a run of groups: of their labels and of their statements, from the start
of the first group to the end of the last. -/
structure MergedFrom (run : List LoweredGroup) (c : CaseGroup) : Prop where
  span : ∃ first last, run.head? = some first ∧ run.getLast? = some last ∧
    c.span = first.raw.span.through last.raw.span
  labels : c.labels = run.flatMap LoweredGroup.labels
  body : c.body = run.flatMap LoweredGroup.body

theorem MergedFrom.eq {c' : CaseGroup} (h : MergedFrom run c) (h' : MergedFrom run c') : c = c' := by
  obtain ⟨span, labels, body⟩ := c
  obtain ⟨span', labels', body'⟩ := c'
  obtain ⟨first, last, head, tail, rfl⟩ := h.span
  obtain ⟨first', last', head', tail', rfl⟩ := h'.span
  obtain rfl : first = first' := by simpa [head] using head'
  obtain rfl : last = last' := by simpa [tail] using tail'
  obtain rfl : labels = _ := h.labels
  obtain rfl : body = _ := h.body
  rw [← h'.labels, ← h'.body]

/-- A chain by what its elements are says something of all but the last. -/
theorem isChain_iff_dropLast {α : Type} {p : α → Prop} {l : List α} :
    l.IsChain (fun a _ => p a) ↔ ∀ a ∈ l.dropLast, p a := by
  induction l with
  | nil => simp
  | cons a rest ih =>
    cases rest with
    | nil => simp
    | cons b rest => simp [List.isChain_cons_cons, ih]

/-- Groups of which all but the last have no statements are one run. -/
theorem runs_of_dropLast (some_ : run ≠ []) (empty : ∀ g ∈ run.dropLast, g.body = []) :
    runs run = [run] := by
  refine List.splitBy_of_isChain some_ (isChain_iff_dropLast.mpr fun g hg => ?_)
  rw [empty g hg]
  rfl

/-- A group with statements ends its run. -/
theorem runs_append_cons (empty : ∀ g ∈ pre, g.body = []) (filled : g.body ≠ [])
    (rest : List LoweredGroup) : runs (pre ++ g :: rest) = (pre ++ [g]) :: runs rest := by
  have first : runs (pre ++ [g]) = [pre ++ [g]] :=
    runs_of_dropLast (by simp) (by simpa using empty)
  have apart : ∀ x ∈ (pre ++ [g]).getLast?, ∀ y ∈ rest.head?, x.body.isEmpty = false := by
    simpa using fun _ _ => filled
  rw [List.append_cons, runs, List.splitBy_append apart]
  exact congrArg (· ++ runs rest) first

/-- What runs are: they join to the groups, no group but the last of a run has statements, and the last
one has unless the run is the last. -/
structure IsRuns (groups : List LoweredGroup) (rs : List (List LoweredGroup)) : Prop where
  joined : rs.flatten = groups
  nonempty : [] ∉ rs
  inner : ∀ run ∈ rs, ∀ g ∈ run.dropLast, g.body = []
  ended : ∀ run ∈ rs.dropLast, ∃ g, run.getLast? = some g ∧ g.body ≠ []

theorem isRuns (groups : List LoweredGroup) : IsRuns groups (runs groups) where
  joined := List.flatten_splitBy _ groups
  nonempty := List.nil_notMem_splitBy _ groups
  inner := by
    intro run hrun g hg
    have chain : run.IsChain fun g _ => g.body.isEmpty = true := List.isChain_of_mem_splitBy hrun
    exact List.isEmpty_iff.mp (isChain_iff_dropLast.mp chain g hg)
  ended := by
    have chain := List.isChain_getLast_head_splitBy (fun g _ => g.body.isEmpty) groups
    refine isChain_iff_dropLast.mp (chain.imp fun run next => ?_)
    rintro ⟨some_, -, last⟩
    exact ⟨run.getLast some_, List.getLast?_eq_getLast_of_ne_nil some_, by simpa using last⟩

/-! ## The loop over the groups -/

/-- Whether labels are pending with their extent because of the groups before, which have no
statements. -/
def PendingFrom (pre : List LoweredGroup) : Option (Span × List CaseLabel) → Prop
  | none => pre = []
  | some (span, labels) => MergedFrom pre ⟨span, labels, []⟩

variable {pending : Option (Span × List CaseLabel)}

theorem PendingFrom.empty (h : PendingFrom pre pending) : ∀ g ∈ pre, g.body = [] := by
  cases pending with
  | none =>
    obtain rfl : pre = [] := h
    exact nofun
  | some earlier =>
    have none_ : pre.flatMap LoweredGroup.body = [] := h.body.symm
    exact List.flatMap_eq_nil_iff.mp none_

/-- What is pending joins the next group. -/
theorem PendingFrom.joined (h : PendingFrom pre pending) (g : LoweredGroup) :
    MergedFrom (pre ++ [g])
      ⟨(joined pending g.raw g.labels).1, (joined pending g.raw g.labels).2, g.body⟩ := by
  have none_ : pre.flatMap LoweredGroup.body = [] := List.flatMap_eq_nil_iff.mpr h.empty
  cases pending with
  | none =>
    obtain rfl : pre = [] := h
    exact ⟨⟨g, g, rfl, rfl, rfl⟩, by simp [Lowering.joined], by simp⟩
  | some earlier =>
    obtain ⟨first, last, head, -, spans⟩ := h.span
    refine ⟨⟨first, g, ?_, by simp, ?_⟩, ?_, by simp [none_]⟩
    · rw [List.head?_append, head, Option.some_or]
    · have start : earlier.1 = first.raw.span.through last.raw.span := spans
      simp [Lowering.joined, start, Span.through]
    · have labels : earlier.2 = pre.flatMap LoweredGroup.labels := h.labels
      simp [Lowering.joined, labels]

/-- At the end of the groups what is pending makes a case of its own. -/
theorem run_caseGroups_nil {cases : List CaseGroup} (h : PendingFrom pre pending) :
    (caseGroups pending []).run below = .ok cases ↔
      List.Forall₂ MergedFrom (runs pre) cases ∧ ∀ c ∈ cases, c.labels ≠ [] := by
  cases pending with
  | none =>
    obtain rfl : pre = [] := h
    rw [caseGroups, run_pure_eq_ok, runs, List.splitBy_nil, List.forall₂_nil_left_iff]
    constructor
    · rintro rfl
      exact ⟨rfl, by simp⟩
    · rintro ⟨rfl, -⟩
      rfl
  -- what is pending at the end is the last run, and it has no statements
  | some earlier =>
    have merged : MergedFrom pre ⟨earlier.1, earlier.2, []⟩ := h
    have some_ : pre ≠ [] := by
      obtain ⟨first, _, head, -⟩ := merged.span
      rintro rfl
      cases head
    have one : runs pre = [pre] :=
      runs_of_dropLast some_ fun g hg => h.empty g (List.dropLast_subset pre hg)
    simp only [caseGroups, run_bind_eq_ok, run_checked_eq_ok, run_pure_eq_ok,
      Checked.caseGroup_eq_ok, one, List.forall₂_cons_left_iff, List.forall₂_nil_left_iff]
    constructor
    · rintro ⟨_, ⟨labeled, rfl⟩, rfl⟩
      exact ⟨⟨_, [], merged, rfl, rfl⟩, by simpa using labeled⟩
    · rintro ⟨⟨c, _, made, rfl, rfl⟩, labeled⟩
      obtain rfl := made.eq merged
      exact ⟨_, ⟨by simpa using labeled, rfl⟩, rfl⟩

/-- A group joins what is pending, and closes the run if it has statements. -/
theorem run_caseGroups_cons {group : RawNode} {rest : List RawNode} {cases : List CaseGroup}
    (tag : group.tag = "switch_block_statement_group") :
    (caseGroups pending (group :: rest)).run below = .ok cases ↔
      ∃ labels body, below .caseGroup group = .ok (labels, body) ∧
        (body = [] ∧
            (caseGroups (some (joined pending group labels)) rest).run below = .ok cases ∨
          body ≠ [] ∧ (joined pending group labels).2 ≠ [] ∧ ∃ later,
            (caseGroups none rest).run below = .ok later ∧
              cases = ⟨(joined pending group labels).1, (joined pending group labels).2, body⟩ ::
                later) := by
  -- one turn of the loop, before it is looked at whether the group has statements
  have step : (caseGroups pending (group :: rest)).run below = .ok cases ↔
      ∃ lowered, below .caseGroup group = .ok lowered ∧
        (if lowered.2.isEmpty then caseGroups (some (joined pending group lowered.1)) rest
        else do
          let made ← checked (Checked.caseGroup (joined pending group lowered.1).1
            (joined pending group lowered.1).2 lowered.2)
          return made :: (← caseGroups none rest)).run below = .ok cases := by
    rw [caseGroups, if_neg (by simp [tag]), run_bind_eq_ok]
    refine exists_congr fun lowered => and_congr ?_ ?_
    · rw [caseGroup, run_request]
    · cases pending <;> rfl
  rw [step]
  constructor
  · rintro ⟨⟨labels, body⟩, given, h⟩
    refine ⟨labels, body, given, ?_⟩
    split at h
    case isTrue none_ => exact .inl ⟨List.isEmpty_iff.mp none_, h⟩
    case isFalse filled =>
      simp only [run_bind_eq_ok, run_checked_eq_ok, run_pure_eq_ok, Checked.caseGroup_eq_ok] at h
      obtain ⟨_, ⟨labeled, rfl⟩, later, form, rfl⟩ := h
      exact .inr ⟨fun none_ => filled (List.isEmpty_iff.mpr none_), labeled, later, form, rfl⟩
  · rintro ⟨labels, body, given, ⟨rfl, h⟩ | ⟨filled, labeled, later, form, rfl⟩⟩
    · exact ⟨(labels, []), given, h⟩
    · refine ⟨(labels, body), given, ?_⟩
      rw [if_neg (by simpa using filled)]
      simp only [run_bind_eq_ok, run_checked_eq_ok, run_pure_eq_ok, Checked.caseGroup_eq_ok]
      exact ⟨_, ⟨labeled, rfl⟩, later, form, rfl⟩

/-- **The loop over the groups.** Together with the groups because of which labels are pending, the
groups make one case for each run of them; and they do so if and only if all are groups, all are lowered
and no case is without a label. -/
theorem run_caseGroups_iff {children : List RawNode} {cases : List CaseGroup}
    (h : PendingFrom pre pending) :
    (caseGroups pending children).run below = .ok cases ↔
      ∃ groups, List.Forall₂ (Of below) children groups ∧
        List.Forall₂ MergedFrom (runs (pre ++ groups)) cases ∧ ∀ c ∈ cases, c.labels ≠ [] := by
  have afresh : PendingFrom [] none := rfl
  -- the induction is on the groups that are left; `pre` are those that what is pending was made of
  induction children generalizing pre pending cases with
  | nil => simp only [List.forall₂_nil_left_iff, exists_eq_left, List.append_nil,
      run_caseGroups_nil h]
  | cons group rest ih =>
    by_cases tag : group.tag = "switch_block_statement_group"
    · rw [run_caseGroups_cons tag]
      constructor
      · rintro ⟨labels, body, given, closed⟩
        let g : LoweredGroup := ⟨group, labels, body⟩
        have joins : MergedFrom (pre ++ [g]) ⟨(joined pending group labels).1,
          (joined pending group labels).2, body⟩ := h.joined g
        rcases closed with ⟨rfl, later⟩ | ⟨filled, labeled, later, form, rfl⟩
        -- without statements the group is pending itself
        · have next : PendingFrom (pre ++ [g]) (some (joined pending group labels)) := joins
          obtain ⟨groups, lowered, merged, labeled⟩ := (ih next).mp later
          rw [List.append_assoc] at merged
          exact ⟨g :: groups, .cons ⟨rfl, tag, given⟩ lowered, merged, labeled⟩
        -- with statements it closes the run, and the rest starts afresh
        · obtain ⟨groups, lowered, merged, rest⟩ := (ih afresh).mp form
          refine ⟨g :: groups, .cons ⟨rfl, tag, given⟩ lowered, ?_,
            List.forall_mem_cons.mpr ⟨labeled, rest⟩⟩
          rw [runs_append_cons h.empty filled]
          exact .cons joins merged
      · rintro ⟨_, lowered, merged, labeled⟩
        obtain ⟨g, groups, ⟨rfl, -, given⟩, others, rfl⟩ := List.forall₂_cons_left_iff.mp lowered
        have joins := h.joined g
        refine ⟨g.labels, g.body, given, ?_⟩
        by_cases none_ : g.body = []
        · have next : PendingFrom (pre ++ [g]) (some (joined pending g.raw g.labels)) := by
            rw [none_] at joins
            exact joins
          rw [← List.singleton_append, ← List.append_assoc] at merged
          exact .inl ⟨none_, (ih next).mpr ⟨groups, others, merged, labeled⟩⟩
        · rw [runs_append_cons h.empty none_] at merged
          obtain ⟨c, later, made, after, rfl⟩ := List.forall₂_cons_left_iff.mp merged
          obtain rfl := made.eq joins
          rw [List.forall_mem_cons] at labeled
          exact .inr ⟨none_, labeled.1, later,
            (ih afresh).mpr ⟨groups, others, after, labeled.2⟩, rfl⟩
    -- a child of another tag is refused, and is no group
    · rw [caseGroups, if_pos (by simpa using tag), run_unsupported_eq_ok, false_iff]
      rintro ⟨_, lowered, -⟩
      obtain ⟨_, _, ⟨-, same, -⟩, -⟩ := List.forall₂_cons_left_iff.mp lowered
      exact tag same

/-! ## The cases of a switch -/

/-- No label is lost, and none is moved. -/
theorem flatMap_labels {rs : List (List LoweredGroup)} {cases : List CaseGroup}
    (h : List.Forall₂ MergedFrom rs cases) :
    cases.flatMap CaseGroup.labels = rs.flatten.flatMap LoweredGroup.labels := by
  induction h with
  | nil => rfl
  | cons made _ ih => rw [List.flatMap_cons, made.labels, ih, List.flatten_cons, List.flatMap_append]

/-- No statement is lost either. -/
theorem flatMap_body {rs : List (List LoweredGroup)} {cases : List CaseGroup}
    (h : List.Forall₂ MergedFrom rs cases) :
    cases.flatMap CaseGroup.body = rs.flatten.flatMap LoweredGroup.body := by
  induction h with
  | nil => rfl
  | cons made _ ih => rw [List.flatMap_cons, made.body, ih, List.flatten_cons, List.flatMap_append]

/-- A case has labels if the groups that it is made of have. -/
theorem MergedFrom.labels_ne_nil (h : MergedFrom run c) (labelled : ∀ g ∈ run, g.labels ≠ []) :
    c.labels ≠ [] := by
  obtain ⟨first, _, head, -⟩ := h.span
  have inside : first ∈ run := List.mem_of_head? head
  intro none_
  rw [h.labels, List.flatMap_eq_nil_iff] at none_
  exact labelled first inside (none_ first inside)

/-- Only the last case can lack statements. -/
theorem body_ne_nil {rs : List (List LoweredGroup)} {cases : List CaseGroup} (h : IsRuns groups rs)
    (made : List.Forall₂ MergedFrom rs cases) : ∀ c ∈ cases.dropLast, c.body ≠ [] := by
  intro c hc
  have early : List.Forall₂ MergedFrom rs.dropLast cases.dropLast := by
    rw [List.dropLast_eq_take, List.dropLast_eq_take, made.length_eq]
    exact List.forall₂_take _ made
  obtain ⟨run, hrun, merged⟩ := exists_of_forall₂ early hc
  obtain ⟨g, last, filled⟩ := h.ended run hrun
  intro none_
  rw [merged.body, List.flatMap_eq_nil_iff] at none_
  exact filled (none_ g (List.mem_of_getLast? last))

section

variable {source : String} {limit room : Nat} {raw child : RawNode}

/-- A group that holds a label is lowered to labels. -/
theorem LoweredGroup.Of.labels_ne_nil (h : Of (lower source limit room) child g)
    (label : ∃ l ∈ child.children, l.tag = "switch_label") : g.labels ≠ [] := by
  obtain ⟨-, -, lowered⟩ := h
  obtain ⟨l, hl, tag⟩ := label
  cases room with
  | zero => cases lowered
  | succ room =>
    obtain ⟨entries, given, same⟩ := caseGroupBody_form lowered
    obtain ⟨entry, hentry, made⟩ := exists_of_forall₂ (.flip given) hl
    have labels : g.labels = entries.flatMap Prod.fst := congrArg Prod.fst same
    rw [labels]
    intro none_
    rw [List.flatMap_eq_nil_iff] at none_
    cases caseEntry_form made with
    | label => exact absurd (none_ _ hentry) (List.cons_ne_nil _ _)
    | body other => exact other tag

/-- A switch is lowered if and only if its selector is, all children of its body are groups that are, and
no run of them lacks a label. -/
theorem lower_switch_iff (named : raw.isNamed) (tag : raw.tag = "switch_expression") {s : Statement} :
    lower source limit (room + 1) .statement raw = .ok s ↔
      ∃ selector groups cases,
        (condition raw).run (lower source limit room) = .ok (some selector) ∧
        List.Forall₂ (Of (lower source limit room)) (items (raw.field? "body")) groups ∧
        List.Forall₂ MergedFrom (runs groups) cases ∧ (∀ c ∈ cases, c.labels ≠ []) ∧
        s = .switch raw.span selector cases := by
  have same : statementBody source raw = switchStatement raw := by
    rw [statementBody, if_pos named]
    simp only [namedStatementBody, tag]
  have start : PendingFrom [] none := rfl
  rw [lower_succ, body, same, switchStatement]
  simp only [run_bind_eq_ok, run_checked_eq_ok, Checked.switch_eq_ok]
  constructor
  · rintro ⟨_, selected, cases, made, selector, rfl, rfl⟩
    obtain ⟨groups, lowered, merged, labelled⟩ := (run_caseGroups_iff start).mp made
    exact ⟨selector, groups, cases, selected, lowered, merged, labelled, rfl⟩
  · rintro ⟨selector, groups, cases, selected, lowered, merged, labelled, rfl⟩
    exact ⟨_, selected, cases, (run_caseGroups_iff start).mpr ⟨groups, lowered, merged, labelled⟩,
      selector, rfl, rfl⟩

end

end Lowering

open Lowering LoweredGroup

/-- **The cases of a switch.** If all children of the body are groups with a label and are lowered, the
cases of the switch have the labels and the statements of the groups, all of them and in their order.
Each case is made of one run of groups: groups without statements with the next group that has some, or
with the end of the switch; it reaches from the start of the first group of the run to the end of the last
one, it has labels, and it has statements unless it is the last case. If a child of the body is no such
group, the switch is refused, and so is every build that comes to it.

Of the two ways to be no such group only one is open to a group of the grammar, which begins with a label:
it can fail to be lowered. A group without a label is no node of the grammar, so nothing is said of it.
All other children, the rules of a switch with arrows among them, are refused for what they are. -/
theorem lower_switch {source : String} {limit : Nat} {raw : RawNode} (named : raw.isNamed)
    (tag : raw.tag = "switch_expression") :
    (∀ room selector groups, (condition raw).run (lower source limit room) = .ok (some selector) →
      List.Forall₂ (fun child g => Of (lower source limit room) child g ∧ g.labels ≠ [])
        (items (raw.field? "body")) groups →
      ∃ rs cases, lower source limit (room + 1) .statement raw = .ok (.switch raw.span selector cases) ∧
        cases.flatMap CaseGroup.labels = groups.flatMap LoweredGroup.labels ∧
        cases.flatMap CaseGroup.body = groups.flatMap LoweredGroup.body ∧
        IsRuns groups rs ∧ List.Forall₂ MergedFrom rs cases ∧
        (∀ c ∈ cases, c.labels ≠ []) ∧ ∀ c ∈ cases.dropLast, c.body ≠ []) ∧
    ∀ child ∈ items (raw.field? "body"),
      (child.tag = "switch_block_statement_group" →
        ∃ l ∈ child.children, l.tag = "switch_label") →
      (∀ room, (∀ g, ¬(Of (lower source limit room) child g ∧ g.labels ≠ [])) →
        ∀ s, lower source limit (room + 1) .statement raw ≠ .ok s) ∧
      ((∀ room g, ¬(Of (lower source limit room) child g ∧ g.labels ≠ [])) →
        ∀ (entry : Entry) (config : BuildConfig) (parsed : ParseResult), parsed.source = source →
          config.maxDepth = limit →
          ComesTo source limit .statement raw limit (entry.lowering source parsed.root) →
          ∀ tree, entry.build config parsed ≠ .ok tree) := by
  constructor
  · intro room selector groups selected lowered
    have runs_ := isRuns groups
    obtain ⟨cases, merged⟩ : ∃ cases, List.Forall₂ MergedFrom (runs groups) cases := by
      refine exists_forall₂ fun run hrun => ?_
      have some_ : run ≠ [] := fun none_ => runs_.nonempty (none_ ▸ hrun)
      exact ⟨⟨(run.head some_).raw.span.through (run.getLast some_).raw.span, _, _⟩,
        ⟨_, _, List.head?_eq_some_head some_, List.getLast?_eq_getLast_of_ne_nil some_, rfl⟩, rfl, rfl⟩
    -- each run has a group, and each group has labels
    have labelled : ∀ c ∈ cases, c.labels ≠ [] := by
      intro c hc
      obtain ⟨run, hrun, made⟩ := exists_of_forall₂ merged hc
      refine made.labels_ne_nil fun g hg => ?_
      have inside : g ∈ groups := runs_.joined ▸ List.mem_flatten.mpr ⟨run, hrun, hg⟩
      obtain ⟨child, -, -, label⟩ := exists_of_forall₂ lowered inside
      exact label
    refine ⟨runs groups, cases, ?_, ?_, ?_, runs_, merged, labelled, body_ne_nil runs_ merged⟩
    · exact (lower_switch_iff named tag).mpr ⟨selector, groups, cases, selected,
        lowered.imp fun _ _ => And.left, merged, labelled, rfl⟩
    · rw [flatMap_labels merged, runs_.joined]
    · rw [flatMap_body merged, runs_.joined]
  · intro child inside label
    have refused : ∀ room, (∀ g, ¬(Of (lower source limit room) child g ∧ g.labels ≠ [])) →
        ∀ s, lower source limit (room + 1) .statement raw ≠ .ok s := by
      intro room none_ s made
      obtain ⟨_, _, _, -, lowered, -⟩ := (lower_switch_iff named tag).mp made
      obtain ⟨g, -, group⟩ := exists_of_forall₂ (.flip lowered) inside
      exact none_ g ⟨group, Of.labels_ne_nil group (label group.2.1)⟩
    -- a build that comes to the switch would have lowered it at some room
    refine ⟨refused, ?_⟩
    rintro none_ entry config parsed rfl rfl comes tree built
    rw [Entry.build_of_intact (Entry.intact_of_build built)] at built
    obtain ⟨room, s, made⟩ := comes.lowered built
    cases room with
    | zero => cases made
    | succ room => exact refused room (none_ room) s made

open RawNode (onLine)

/-- The raw tree of `switch (a) { case 1: case 2: ; default: }`. -/
def fallThrough : RawNode :=
  onLine "switch_expression" true none 0 41
    [onLine "switch" false none 0 6 [],
     onLine "parenthesized_expression" true (some "condition") 7 10
      [onLine "(" false none 7 8 [], onLine "identifier" true none 8 9 [],
       onLine ")" false none 9 10 []],
     onLine "switch_block" true (some "body") 11 41
      [onLine "\x7b" false none 11 12 [],
       onLine "switch_block_statement_group" true none 13 20
        [onLine "switch_label" true none 13 19
          [onLine "case" false none 13 17 [], onLine "decimal_integer_literal" true none 18 19 []],
         onLine ":" false none 19 20 []],
       onLine "switch_block_statement_group" true none 21 30
        [onLine "switch_label" true none 21 27
          [onLine "case" false none 21 25 [], onLine "decimal_integer_literal" true none 26 27 []],
         onLine ":" false none 27 28 [],
         onLine ";" false none 29 30 []],
       onLine "switch_block_statement_group" true none 31 39
        [onLine "switch_label" true none 31 38 [onLine "default" false none 31 38 []],
         onLine ":" false none 38 39 []],
       onLine "\x7d" false none 40 41 []]]

/-- The rule of `switch (a) { default -> { } }`. -/
def arrowRule : RawNode :=
  onLine "switch_rule" true none 13 27
    [onLine "switch_label" true none 13 20 [onLine "default" false none 13 20 []],
     onLine "->" false none 21 23 [],
     onLine "block" true none 24 27
      [onLine "\x7b" false none 24 25 [], onLine "\x7d" false none 26 27 []]]

/-- The switch itself, whose body holds the rule and no group. -/
def arrowSwitch : RawNode :=
  onLine "switch_expression" true none 0 29
    [onLine "switch" false none 0 6 [],
     onLine "parenthesized_expression" true (some "condition") 7 10
      [onLine "(" false none 7 8 [], onLine "identifier" true none 8 9 [],
       onLine ")" false none 9 10 []],
     onLine "switch_block" true (some "body") 11 29
      [onLine "\x7b" false none 11 12 [], arrowRule, onLine "\x7d" false none 28 29 []]]

/-- The snippet that consists of this switch. -/
def arrowSnippet : ParseResult where
  source := "switch (a) \x7b default -> \x7b \x7d \x7d"
  root := onLine "program" true none 0 29 [arrowSwitch]

/-- The first two labels of `fallThrough` share the statement, and the last one stands without any. A
rule with an arrow is refused wherever the switch is lowered, and so the build is. -/
theorem fallThrough_merged : ∃ (selector : Expression) (first second : CaseGroup) (span : Span),
    lower "switch (a) { case 1: case 2: ; default: }" 64 4 .statement fallThrough =
        .ok (.switch fallThrough.span selector [first, second]) ∧
      (first.labels ++ second.labels).length = 3 ∧ first.body ++ second.body = [.empty span] ∧
      first.body ≠ [] ∧ second.labels ≠ [] ∧
      (∀ room s, lower arrowSnippet.source 64 (room + 1) .statement arrowSwitch ≠ .ok s) ∧
      ∀ tree, Entry.statements.build ⟨64, true⟩ arrowSnippet ≠ .ok tree := by
  have inside : arrowRule ∈ items (arrowSwitch.field? "body") := List.mem_singleton_self arrowRule
  have noGroup : arrowRule.tag ≠ "switch_block_statement_group" := by decide
  -- the rule of the second switch is no group, at whatever room
  have none_ (room : Nat) (g : LoweredGroup) :
      ¬(Of (lower arrowSnippet.source 64 room) arrowRule g ∧ g.labels ≠ []) :=
    fun group => noGroup group.1.2.1
  obtain ⟨refused, unbuilt⟩ :=
    (lower_switch rfl rfl).2 arrowRule inside fun group => absurd group noGroup
  -- the groups of the first switch, lowered one by one
  obtain ⟨selector, groups, selected, lowered, three, one⟩ :
      ∃ selector groups,
        (condition fallThrough).run (lower "switch (a) { case 1: case 2: ; default: }" 64 3) =
            .ok (some selector) ∧
          List.Forall₂ (fun child g =>
              Of (lower "switch (a) { case 1: case 2: ; default: }" 64 3) child g ∧ g.labels ≠ [])
            (items (fallThrough.field? "body")) groups ∧
          (groups.flatMap LoweredGroup.labels).length = 3 ∧
          ∃ span, groups.flatMap LoweredGroup.body = [.empty span] :=
    ⟨_, [⟨_, [_], []⟩, ⟨_, [_], [_]⟩, ⟨_, [_], []⟩], rfl,
      .cons ⟨⟨rfl, rfl, rfl⟩, List.cons_ne_nil _ _⟩ (.cons ⟨⟨rfl, rfl, rfl⟩, List.cons_ne_nil _ _⟩
        (.cons ⟨⟨rfl, rfl, rfl⟩, List.cons_ne_nil _ _⟩ .nil)), rfl, _, rfl⟩
  obtain ⟨span, one⟩ := one
  obtain ⟨rs, cases, made, labels, bodies, -, -, labelled, filled⟩ :=
    (lower_switch rfl rfl).1 3 selector groups selected lowered
  obtain ⟨first, second, rfl⟩ : ∃ first second, cases = [first, second] := by
    cases made
    exact ⟨_, _, rfl⟩
  refine ⟨selector, first, second, span, made, ?_, ?_, filled first (by simp),
    labelled second (by simp), ?_, ?_⟩
  · simpa [← labels] using three
  · simpa [← bodies] using one
  · exact fun room => refused room (none_ room)
  · exact unbuilt none_ .statements ⟨64, true⟩ arrowSnippet rfl rfl (.asked (.inl ⟨rfl, rfl⟩))

end JavaSyntax
