import JavaSyntax.Lowering.Statement
import JavaSyntax.Proofs.Raw.Nodes

/-!
# Places — the nodes that a lowering finds deeper than in a part

Most lowerings read the parts of a node. Some look further: at what stands in a type body and among
the members of an enum after its constants, at the lists in the header of a declaration, and inside
parentheses. All that they find lies inside the node.

These lookups are functions on raw trees and not lowerings. What a request is made of comes out of them,
so the bound on the nodes that are asked for (`Requests`) rests on them where a lemma about parts is not
enough.
-/

namespace JavaSyntax

namespace Lowering

/-! ## Type bodies -/

mutual

/-- The entries among some parts are made of nodes inside these parts. The section behind the
constants of an enum is entered, so the induction goes through its parts too. -/
theorem exists_node_of_mem_bodyEntriesIn {entry : BodyEntry} {separated : Bool} :
    (parts : List RawNode) → entry ∈ bodyEntriesIn separated parts →
      ∃ p ∈ parts, ∃ q ∈ p.nodes, entry = .declaration q ∨ entry = .empty q.span
  | [], h => by simp [bodyEntriesIn] at h
  | part :: rest, h => by
    have later {separated : Bool} (h : entry ∈ bodyEntriesIn separated rest) :
        ∃ p ∈ part :: rest, ∃ q ∈ p.nodes, entry = .declaration q ∨ entry = .empty q.span := by
      obtain ⟨p, hp, made⟩ := exists_node_of_mem_bodyEntriesIn rest h
      exact ⟨p, List.mem_cons_of_mem part hp, made⟩
    -- an entry comes from the first part, from what is inside it, or from a later part
    unfold bodyEntriesIn at h
    split at h
    · exact later h
    · split at h
      · rcases List.mem_append.mp h with h | h
        · refine ⟨part, List.mem_cons_self, ?_⟩
          split at h
          · obtain ⟨q, inside, made⟩ := exists_node_of_mem_nestedEntries part h
            exact ⟨q, inside.mem_nodes, made⟩
          · exact ⟨part, part.mem_nodes_self, .inl (List.mem_singleton.mp h)⟩
        · exact later h
      · split at h
        · split at h
          · exact later h
          · rcases List.mem_cons.mp h with rfl | h
            · exact ⟨part, List.mem_cons_self, part, part.mem_nodes_self, .inr rfl⟩
            · exact later h
        · exact later h

/-- The entries of such a section are made of nodes strictly inside it. -/
theorem exists_node_of_mem_nestedEntries {entry : BodyEntry} :
    (raw : RawNode) → entry ∈ nestedEntries raw →
      ∃ q, raw.Encloses q ∧ (entry = .declaration q ∨ entry = .empty q.span)
  | .node _ parts, h => by
    obtain ⟨p, hp, q, hq, made⟩ := exists_node_of_mem_bodyEntriesIn parts h
    exact ⟨q, ⟨p, hp, hq⟩, made⟩

end

/-- An entry of a type body is made of a node inside the body. -/
theorem exists_node_of_mem_bodyEntries {entry : BodyEntry} {body : RawNode}
    (h : entry ∈ bodyEntries body) :
    ∃ q, body.Encloses q ∧ (entry = .declaration q ∨ entry = .empty q.span) := by
  obtain ⟨p, hp, q, hq, made⟩ := exists_node_of_mem_bodyEntriesIn body.parts h
  exact ⟨q, ⟨p, hp, hq⟩, made⟩

/-! ## Lists -/

/-- The list of super interfaces stands inside the declaration. -/
theorem encloses_of_superInterfaces {raw list : RawNode} (h : superInterfaces raw = some list) :
    raw.Encloses list := by
  obtain ⟨clause, hc, hl⟩ := Option.bind_eq_some_iff.mp h
  have inner := RawNode.encloses_of_part (RawNode.mem_parts_of_childOfTag? hl)
  rcases Option.or_eq_some_iff.mp hc with hc | ⟨-, hc⟩
  · exact (RawNode.encloses_of_part (RawNode.mem_parts_of_field? hc)).trans inner
  · exact (RawNode.encloses_of_part (RawNode.mem_parts_of_childOfTag? hc)).trans inner

/-- The members of a tag in a list that may be absent. -/
theorem encloses_of_mem_childrenOfTag {raw p : RawNode} {name tag : String}
    (h : p ∈ ((raw.field? name).map fun list => list.childrenOfTag tag).getD []) :
    raw.Encloses p := by
  cases found : raw.field? name with
  | none => simp [found] at h
  | some list =>
    rw [found] at h
    exact (RawNode.encloses_of_part (RawNode.mem_parts_of_field? found)).part
      (list.childrenOfTag_subset_parts tag h)

/-- What is found by its tag has this tag. -/
theorem tag_of_mem_childrenOfTag {raw p : RawNode} {name tag : String}
    (h : p ∈ ((raw.field? name).map fun list => list.childrenOfTag tag).getD []) : p.tag = tag := by
  cases found : raw.field? name with
  | none => simp [found] at h
  | some list =>
    rw [found] at h
    exact eq_of_beq (List.mem_filter.mp h).2

/-! ## Parentheses -/

/-- Without parentheses the node itself is taken, which is why the bound is not strict. -/
theorem mem_nodes_of_insideParentheses {raw p : RawNode} (h : insideParentheses raw = some p) :
    p ∈ raw.nodes := by
  unfold insideParentheses at h
  split at h
  · exact raw.namedChildren_subset_nodes (List.mem_of_head? h)
  · rw [Option.some.injEq] at h
    exact h ▸ raw.mem_nodes_self

end Lowering

end JavaSyntax
