import JavaSyntax.Proofs.Raw.Damage
import JavaSyntax.Proofs.Raw.Order
import Mathlib.Data.List.Flatten
import Mathlib.Data.List.Forall2

/-!
# Outermost damage — where the reported marks stand

Two nodes of a raw tree can look alike, so a node is told from all others by its place: the indices of
the children through which it is reached. Places in pre-order are places in lexicographic order. A mark
is outermost if it stands below no other mark.

* `RawNode.at?`, `RawNode.Outermost`: the node at a place, and the places of the outermost marks;
* `RawNode.damagePlaces`: those places in pre-order, found without any flag;
* `RawNode.map_at?_damagePlaces`: the search that trusts the flags finds the nodes at these places;
* `errors_exact`: the reports of a source are those of its outermost marks, in pre-order.

The search trusts a flag on every node that it passes, and the list of places does not look at flags at
all. That both find the same is where the assumption on the flags is used, and the only place.
-/

namespace JavaSyntax

namespace RawNode

variable {r q : RawNode} {i : Nat} {place : List Nat}

/-! ## Places -/

/-- The node that is reached through the children with those indices. -/
def at? : RawNode → List Nat → Option RawNode
  | r, [] => some r
  | r, i :: place => r.children[i]?.bind fun c => c.at? place

/-- One step down, then the rest of the way. -/
theorem at?_cons_eq_some :
    r.at? (i :: place) = some q ↔ ∃ c, r.children[i]? = some c ∧ c.at? place = some q := by
  rw [at?, Option.bind_eq_some_iff]

/-- What is reached from a node is what stands at some place below it. -/
theorem mem_reachable_iff_at? : q ∈ r.reachable ↔ ∃ place, r.at? place = some q := by
  constructor
  · intro h
    induction r using inductionOnParts with
    | node r ih =>
      rw [reachable_eq] at h
      rcases List.mem_cons.mp h with rfl | h
      · exact ⟨[], rfl⟩
      · obtain ⟨c, hc, h⟩ := List.mem_flatMap.mp h
        obtain ⟨place, h⟩ := ih c (children_subset_parts r hc) h
        obtain ⟨i, hi⟩ := List.mem_iff_getElem?.mp hc
        exact ⟨i :: place, at?_cons_eq_some.mpr ⟨c, hi, h⟩⟩
  · rintro ⟨place, h⟩
    induction place generalizing r with
    | nil =>
      rw [at?, Option.some.injEq] at h
      exact h ▸ mem_reachable_self r
    | cons i place ih =>
      obtain ⟨c, hc, h⟩ := at?_cons_eq_some.mp h
      exact mem_reachable_of_child (List.mem_of_getElem? hc) (ih h)

/-! ## Outermost marks -/

/-- Whether a mark stands at a place, and none at the places above it. -/
structure Outermost (root : RawNode) (place : List Nat) : Prop where
  marked : ∃ q, root.at? place = some q ∧ q.isDamaged
  bare : ∀ above, above <+: place → above ≠ place →
    ∀ q, root.at? above = some q → q.isDamaged = false

/-- The root is an outermost mark as soon as it is a mark. -/
theorem outermost_nil : r.Outermost [] ↔ r.isDamaged := by
  constructor
  · rintro ⟨⟨q, found, marked⟩, -⟩
    rw [at?, Option.some.injEq] at found
    exact found ▸ marked
  · intro marked
    exact ⟨⟨r, rfl, marked⟩, fun above h ne => absurd (List.prefix_nil.mp h) ne⟩

/-- Below the root a place is outermost if the root is no mark, and it is outermost from the child on.
-/
theorem outermost_cons : r.Outermost (i :: place) ↔
    r.isDamaged = false ∧ ∃ c, r.children[i]? = some c ∧ c.Outermost place := by
  constructor
  · rintro ⟨⟨q, found, marked⟩, bare⟩
    obtain ⟨c, hc, found⟩ := at?_cons_eq_some.mp found
    refine ⟨bare [] List.nil_prefix (List.cons_ne_nil _ _).symm r rfl, c, hc, ⟨q, found, marked⟩, ?_⟩
    intro above h ne p hp
    refine bare (i :: above) ((List.prefix_cons_inj i).mpr h) ?_ p (at?_cons_eq_some.mpr ⟨c, hc, hp⟩)
    exact fun same => ne (List.cons_inj_right i |>.mp same)
  -- a place above is the root, which is no mark, or goes through the same child
  · rintro ⟨unmarked, c, hc, ⟨q, found, marked⟩, bare⟩
    refine ⟨⟨q, at?_cons_eq_some.mpr ⟨c, hc, found⟩, marked⟩, ?_⟩
    rintro (_ | ⟨j, above⟩) h ne p hp
    · rw [at?, Option.some.injEq] at hp
      exact hp ▸ unmarked
    · obtain ⟨rfl, h'⟩ := List.cons_prefix_cons.mp h
      obtain ⟨c', hc', hp⟩ := at?_cons_eq_some.mp hp
      rw [hc, Option.some.injEq] at hc'
      exact bare above h' (fun same => ne (same ▸ rfl)) p (hc' ▸ hp)

mutual

/-- The places of the outermost marks in pre-order. -/
def damagePlaces : RawNode → List (List Nat)
  | node label parts =>
    if label.isError || label.isMissing then [[]] else damagePlacesIn 0 parts

/-- Those below the children among the parts, the first of which has the given index. -/
def damagePlacesIn (index : Nat) : List RawNode → List (List Nat)
  | [] => []
  | part :: rest =>
    if part.isKept then (damagePlaces part).map (index :: ·) ++ damagePlacesIn (index + 1) rest
    else damagePlacesIn index rest

end

/-- An index counts the children, so extras among the parts do not move it. -/
theorem damagePlacesIn_eq (index : Nat) (parts : List RawNode) :
    damagePlacesIn index parts =
      ((parts.filter isKept).zipIdx index).flatMap fun c => c.1.damagePlaces.map (c.2 :: ·) := by
  induction parts generalizing index with
  | nil => rfl
  | cons part rest ih =>
    rw [damagePlacesIn, List.filter_cons]
    split
    · rw [List.zipIdx_cons, List.flatMap_cons, ih]
    · exact ih index

/-- The places of a node in terms of those of its children. -/
theorem damagePlaces_eq (r : RawNode) :
    r.damagePlaces =
      if r.isDamaged then [[]]
      else r.children.zipIdx.flatMap fun c => c.1.damagePlaces.map (c.2 :: ·) := by
  obtain ⟨label, parts⟩ := r
  rw [damagePlaces, damagePlacesIn_eq]
  rfl

/-- Exactly the places of the outermost marks are listed. The induction is on the place, not on the
tree. -/
theorem mem_damagePlaces : place ∈ r.damagePlaces ↔ r.Outermost place := by
  induction place generalizing r with
  | nil =>
    rw [damagePlaces_eq, outermost_nil]
    split
    case isTrue marked => simp [marked]
    case isFalse unmarked => simp [unmarked]
  | cons i place ih =>
    rw [damagePlaces_eq, outermost_cons]
    split
    case isTrue marked => simp [marked]
    case isFalse unmarked => simp [unmarked, List.mem_zipIdx_iff_getElem?, ih]

/-- Places are found in pre-order, so none is found twice. -/
theorem pairwise_damagePlaces (r : RawNode) : r.damagePlaces.Pairwise (· < ·) := by
  induction r using inductionOnParts with
  | node r ih =>
    rw [damagePlaces_eq]
    split
    · exact List.pairwise_singleton _ _
    · rw [List.pairwise_flatMap]
      constructor
      · rintro ⟨c, i⟩ hc
        have found := children_subset_parts r (List.fst_mem_of_mem_zipIdx hc)
        refine List.pairwise_map.mpr ((ih c found).imp fun h => ?_)
        exact List.cons_lt_cons_iff.mpr (.inr ⟨rfl, h⟩)
      · have indices : (r.children.zipIdx.map Prod.snd).Pairwise (· < ·) := by
          rw [List.zipIdx_map_snd]
          exact List.pairwise_lt_range'
        refine (List.pairwise_map.mp indices).imp fun {c d} h x hx y hy => ?_
        obtain ⟨x, -, rfl⟩ := List.mem_map.mp hx
        obtain ⟨y, -, rfl⟩ := List.mem_map.mp hy
        exact List.cons_lt_cons_iff.mpr (.inl h)

/-! ## What the search finds -/

/-- **The search finds the nodes at the places of the outermost marks**, one after the other, if the
flags are set above all marks. -/
theorem map_at?_damagePlaces (flagged : r.FlaggedBelow) :
    r.damagePlaces.map r.at? = r.damage.map some := by
  induction r using inductionOnParts with
  | node r ih =>
    rw [damagePlaces_eq, damage_eq]
    split
    · rfl
    by_cases below : r.containsErrors
    · rw [if_pos below, List.map_flatMap, List.map_flatMap]
      have each : ∀ c ∈ r.children.zipIdx,
          (c.1.damagePlaces.map (c.2 :: ·)).map r.at? = c.1.damage.map some := by
        rintro ⟨c, i⟩ hc
        have child := List.fst_mem_of_mem_zipIdx hc
        have found : r.children[i]? = some c := List.mem_zipIdx_iff_getElem?.mp hc
        rw [← ih c (children_subset_parts r child) (flagged.child child), List.map_map]
        refine List.map_congr_left fun place _ => ?_
        rw [Function.comp_apply, at?, found, Option.bind_some]
      rw [List.flatMap_congr each]
      conv_rhs => rw [← List.zipIdx_map_fst 0 r.children, List.flatMap_map]
    -- a node without the flag is not searched, and there is nothing to find below it
    · rw [if_neg below, List.map_nil, List.map_eq_nil_iff, List.flatMap_eq_nil_iff]
      rintro ⟨c, i⟩ hc
      have child := List.fst_mem_of_mem_zipIdx hc
      rw [List.map_eq_nil_iff, List.eq_nil_iff_forall_not_mem]
      intro place hplace
      obtain ⟨q, found, marked⟩ := (mem_damagePlaces.mp hplace).marked
      have reached := mem_reachable_iff_at?.mpr ⟨place, found⟩
      rw [flagged.eq_false (Bool.not_eq_true _ ▸ below) child reached] at marked
      exact Bool.false_ne_true marked

/-- What the search finds is reached, in pre-order, whatever the flags say. -/
theorem damage_sublist_reachable (r : RawNode) : r.damage.Sublist r.reachable := by
  induction r using inductionOnParts with
  | node r ih =>
    rw [damage_eq, reachable_eq]
    split
    · exact List.singleton_sublist.mpr List.mem_cons_self
    · split
      · refine (List.Sublist.flatMap_right r.children fun c hc => ?_).cons r
        exact ih c (children_subset_parts r hc)
      · exact List.nil_sublist _

/-! ## Order in the source -/

/-- Whether siblings are in order: what is reached from the earlier of two starts no later than what is
reached from the later one. -/
def SiblingsInOrder (root : RawNode) : Prop :=
  ∀ r ∈ root.reachable, r.children.Pairwise fun a b =>
    ∀ x ∈ a.reachable, ∀ y ∈ b.reachable, x.label.startByte ≤ y.label.startByte

/-- The order among siblings is inherited by the children. -/
theorem SiblingsInOrder.child {c : RawNode} (order : r.SiblingsInOrder) (hc : c ∈ r.children) :
    c.SiblingsInOrder :=
  fun q hq => order q (mem_reachable_of_child hc hq)

/-- What is reached through children is reached through parts. -/
theorem reachable_subset_nodes (r : RawNode) : r.reachable ⊆ r.nodes := by
  induction r using inductionOnParts with
  | node r ih =>
    intro q hq
    rw [reachable_eq] at hq
    rcases List.mem_cons.mp hq with rfl | hq
    · exact mem_nodes_self q
    · obtain ⟨c, hc, hq⟩ := List.mem_flatMap.mp hq
      exact mem_nodes_of_part (children_subset_parts r hc) (ih c (children_subset_parts r hc) hq)

/-- Siblings are in order if extents nest and follow one another. -/
theorem siblingsInOrder_of_nested {root : RawNode} (nested : ∀ r ∈ root.nodes, r.Nested) :
    root.SiblingsInOrder := by
  intro r hr
  have here := reachable_subset_nodes root hr
  refine ((nested r here).apart.sublist List.filter_sublist).imp_of_mem ?_
  intro a b ha hb apart x hx y hy
  have ha := mem_nodes_trans here (r.children_subset_nodes ha)
  have hb := mem_nodes_trans here (r.children_subset_nodes hb)
  have hx := reachable_subset_nodes a hx
  calc x.label.startByte ≤ x.label.stopByte := (nested x (mem_nodes_trans ha hx)).proper
    _ ≤ a.label.stopByte := (within_of_nested nested ha hx).2
    _ ≤ b.label.startByte := apart
    _ ≤ y.label.startByte := (within_of_nested nested hb (reachable_subset_nodes b hy)).1

/-- If siblings are in order, damage is found in the order in which it starts. -/
theorem pairwise_damage (order : r.SiblingsInOrder) :
    r.damage.Pairwise fun a b => a.label.startByte ≤ b.label.startByte := by
  induction r using inductionOnParts with
  | node r ih =>
    rw [damage_eq]
    split
    · exact List.pairwise_singleton _ _
    · split
      · rw [List.pairwise_flatMap]
        refine ⟨fun c hc => ih c (children_subset_parts r hc) (order.child hc), ?_⟩
        refine (order r (mem_reachable_self r)).imp fun h x hx y hy => ?_
        exact h x ((damage_sublist_reachable _).subset hx) y ((damage_sublist_reachable _).subset hy)
      · exact List.Pairwise.nil

end RawNode

/-! ## Reports -/

/-- Whether a report shows where a node lies: its extent, and the line and the column of its start,
counted from one as long as they are below the largest coordinate. -/
structure DamageReport.Shows (report : DamageReport) (r : RawNode) : Prop where
  span : report.span = r.span
  line : r.span.start.line < coordinateLimit → report.line = r.span.start.line + 1
  column : r.span.start.column < coordinateLimit → report.column = r.span.start.column + 1

/-- A report counts from one, and a coordinate that is too large is cut to the largest one. -/
theorem RawNode.shows_damageReport (source : String) (r : RawNode) :
    (r.damageReport source).Shows r where
  span := rfl
  line small := narrow_of_le small
  column small := narrow_of_le small

/-- **Errors are the outermost damage, in pre-order.** If every node above a mark says that it contains
errors, there is exactly one report for each place of an outermost mark, in the order of the places; it
is the report of the node there, and shows where that lies. So if siblings are in order, the reports are
in the order in which the marks start; and there is a report if and only if some mark is reached. -/
theorem errors_exact (parsed : ParseResult) (flagged : parsed.root.FlaggedBelow) :
    (∃ (places : List (List Nat)) (marks : List RawNode), places.Pairwise (· < ·) ∧
      (∀ place, place ∈ places ↔ parsed.root.Outermost place) ∧
      List.Forall₂ (fun place mark => parsed.root.at? place = some mark) places marks ∧
      marks.Sublist parsed.root.reachable ∧
      List.Forall₂ (fun mark report => report = mark.damageReport parsed.source ∧ report.Shows mark)
        marks parsed.errors) ∧
    (parsed.root.SiblingsInOrder →
      parsed.errors.Pairwise fun a b => a.span.startByte ≤ b.span.startByte) ∧
    (parsed.errors ≠ [] ↔ ∃ r ∈ parsed.root.reachable, r.isError ∨ r.isMissing) := by
  have found : List.Forall₂ (fun place mark => parsed.root.at? place = some mark)
      parsed.root.damagePlaces parsed.root.damage := by
    have same := RawNode.map_at?_damagePlaces flagged
    rw [← List.forall₂_eq_eq_eq, List.forall₂_map_left_iff, List.forall₂_map_right_iff] at same
    exact same
  refine ⟨⟨parsed.root.damagePlaces, parsed.root.damage, parsed.root.pairwise_damagePlaces,
    fun place => RawNode.mem_damagePlaces, found, parsed.root.damage_sublist_reachable, ?_⟩,
    fun order => ?_, ?_⟩
  · rw [ParseResult.errors, List.forall₂_map_right_iff, List.forall₂_same]
    exact fun mark _ => ⟨rfl, mark.shows_damageReport parsed.source⟩
  · rw [ParseResult.errors, List.pairwise_map]
    exact (RawNode.pairwise_damage order).imp narrow_le_narrow
  · rw [ParseResult.errors, ne_eq, List.map_eq_nil_iff]
    constructor
    · intro some
      have some : parsed.root.damagePlaces ≠ [] := by
        intro none
        rw [none, List.forall₂_nil_left_iff] at found
        exact some found
      obtain ⟨place, hplace⟩ := List.exists_mem_of_ne_nil _ some
      obtain ⟨q, at_place, mark⟩ := (RawNode.mem_damagePlaces.mp hplace).marked
      exact ⟨q, RawNode.mem_reachable_iff_at?.mpr ⟨place, at_place⟩, Bool.or_eq_true _ _ ▸ mark⟩
    · rintro ⟨r, hr, mark⟩
      exact RawNode.damage_ne_nil flagged hr (Bool.or_eq_true _ _ ▸ mark)

/-- The raw tree of `break /**/ @`. The skipped `@` is a mark inside a mark, the semicolon is supplied,
and the comment counts as no child. -/
def brokenBreak : ParseResult where
  source := "break /**/ @"
  root :=
    .node ⟨"program", true, false, false, false, true, none, 0, 12, ⟨0, 0⟩, ⟨0, 12⟩⟩
      [.node ⟨"break_statement", true, false, false, false, true, none, 0, 12, ⟨0, 0⟩, ⟨0, 12⟩⟩
        [.node ⟨"break", false, false, false, false, false, none, 0, 5, ⟨0, 0⟩, ⟨0, 5⟩⟩ [],
         .node ⟨"block_comment", true, false, false, true, false, none, 6, 10, ⟨0, 6⟩, ⟨0, 10⟩⟩ [],
         .node ⟨"ERROR", true, true, false, true, true, none, 11, 12, ⟨0, 11⟩, ⟨0, 12⟩⟩
          [.node ⟨"ERROR", false, true, false, false, true, none, 11, 12, ⟨0, 11⟩, ⟨0, 12⟩⟩ []],
         .node ⟨";", false, false, true, false, true, none, 12, 12, ⟨0, 12⟩, ⟨0, 12⟩⟩ []]]

/-- All nodes above a mark have the flag. -/
theorem brokenBreak_flagged : brokenBreak.root.FlaggedBelow := by
  unfold RawNode.FlaggedBelow
  decide

/-- The extents nest, so siblings are in order. -/
theorem brokenBreak_siblingsInOrder : brokenBreak.root.SiblingsInOrder := by
  have nested : ∀ r ∈ brokenBreak.root.nodes, r.label.startByte ≤ r.label.stopByte ∧
      (∀ p ∈ r.parts,
        r.label.startByte ≤ p.label.startByte ∧ p.label.stopByte ≤ r.label.stopByte) ∧
      r.parts.Pairwise fun p q => p.label.stopByte ≤ q.label.startByte := by decide
  refine RawNode.siblingsInOrder_of_nested fun r hr => ?_
  obtain ⟨proper, within, apart⟩ := nested r hr
  exact ⟨proper, within, apart⟩

/-- Its reports are those of the outer mark and of the semicolon. -/
theorem brokenBreak_reported : brokenBreak.root.FlaggedBelow ∧ brokenBreak.root.SiblingsInOrder ∧
    (∃ (places : List (List Nat)) (marks : List RawNode), places.Pairwise (· < ·) ∧
      (∀ place, place ∈ places ↔ brokenBreak.root.Outermost place) ∧
      List.Forall₂ (fun place mark => brokenBreak.root.at? place = some mark) places marks ∧
      marks.Sublist brokenBreak.root.reachable ∧
      List.Forall₂ (fun mark report =>
        report = mark.damageReport brokenBreak.source ∧ report.Shows mark)
        marks brokenBreak.errors) ∧
    (brokenBreak.errors.Pairwise fun a b => a.span.startByte ≤ b.span.startByte) ∧
    brokenBreak.errors ≠ [] := by
  obtain ⟨reported, sorted, some⟩ := errors_exact brokenBreak brokenBreak_flagged
  have order := brokenBreak_siblingsInOrder
  exact ⟨brokenBreak_flagged, order, reported, sorted order, some.mpr (by decide)⟩

example : brokenBreak.root.damagePlaces = [[0, 1], [0, 2]] := rfl

end JavaSyntax
