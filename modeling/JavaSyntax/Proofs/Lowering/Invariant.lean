import JavaSyntax.Proofs.Lowering.Gives
import JavaSyntax.Proofs.Raw.Nodes

/-!
# Invariants — properties of all that is lowered

A property of built trees is stated of the nodes that a construct is lowered to, and may compare them
with the raw node. If what a construct consists of has the property as soon as all that it asks for
has it, then everything that is lowered has it (`lower_induction`).

* `Construct.nodes`: the roots of the trees that a construct is lowered to;
* `Answers.Satisfy`: whether all answers for the nodes of a raw tree have a property, with one lemma
  for each request.
-/

namespace JavaSyntax

/-- The roots of the typed trees that a construct is lowered to. -/
def Construct.nodes : (construct : Construct) → construct.Result → List Node
  | .expression, e | .type, e | .arrayElements, e | .innerElements, e | .annotationValues, e =>
    [Expression.node e]
  | .statement, s => [Statement.node s]
  | .statements, ss => List.map Statement.node ss
  | .typeDeclaration, d | .anonymousClass, d => [.typeDeclaration d]
  | .annotationUse, use => [.annotationUse use]
  | .caseGroup, group => group.1.map Node.caseLabel ++ group.2.map Statement.node

/-- Whether the answers to all requests for nodes of `raw` have a property. -/
def Answers.Satisfy (below : Answers) (raw : RawNode)
    (Q : Construct → RawNode → Node → Prop) : Prop :=
  ∀ construct, ∀ p ∈ raw.nodes, ∀ result, below construct p = .ok result →
    ∀ n ∈ construct.nodes result, Q construct p n

namespace Answers.Satisfy

open Lowering

variable {below : Answers} {raw p : RawNode} {Q : Construct → RawNode → Node → Prop}

theorem of_mem (h : below.Satisfy raw Q) (hp : p ∈ raw.nodes) : below.Satisfy p Q :=
  fun construct q hq => h construct q (RawNode.mem_nodes_trans hp hq)

variable (h : below.Satisfy raw Q) (hp : p ∈ raw.nodes)

include h hp

theorem expression {e : Expression} (given : Gives below expression p e) :
    Q .expression p e.node :=
  h .expression p hp e (gives_request given) _ List.mem_cons_self

theorem type {e : Expression} (given : Gives below typeExpression p e) : Q .type p e.node :=
  h .type p hp e (gives_request given) _ List.mem_cons_self

theorem arrayElements {e : Expression} (given : below .arrayElements p = .ok e) :
    Q .arrayElements p e.node :=
  h .arrayElements p hp e given _ List.mem_cons_self

theorem innerElements {e : Expression} (given : below .innerElements p = .ok e) :
    Q .innerElements p e.node :=
  h .innerElements p hp e given _ List.mem_cons_self

theorem annotationValues {e : Expression} (given : below .annotationValues p = .ok e) :
    Q .annotationValues p e.node :=
  h .annotationValues p hp e given _ List.mem_cons_self

theorem statement {s : Statement} (given : Gives below statement p s) : Q .statement p s.node :=
  h .statement p hp s (gives_request given) _ List.mem_cons_self

theorem statements {ss : List Statement} (given : Gives below statements p ss) :
    ∀ s ∈ ss, Q .statements p s.node :=
  fun _ hs => h .statements p hp ss (gives_request given) _ (List.mem_map_of_mem hs)

theorem typeDeclaration {d : TypeDeclaration} (given : Gives below typeDeclaration p d) :
    Q .typeDeclaration p (.typeDeclaration d) :=
  h .typeDeclaration p hp d (gives_request given) _ List.mem_cons_self

theorem anonymousClass {d : TypeDeclaration} (given : Gives below anonymousClass p d) :
    Q .anonymousClass p (.typeDeclaration d) :=
  h .anonymousClass p hp d (gives_request given) _ List.mem_cons_self

theorem annotationUse {use : AnnotationUse} (given : Gives below annotationUse p use) :
    Q .annotationUse p (.annotationUse use) :=
  h .annotationUse p hp use (gives_request given) _ List.mem_cons_self

theorem caseGroup {group : List CaseLabel × List Statement} (given : Gives below caseGroup p group) :
    (∀ l ∈ group.1, Q .caseGroup p (.caseLabel l)) ∧ ∀ s ∈ group.2, Q .caseGroup p s.node := by
  have all := h .caseGroup p hp group (gives_request given)
  refine ⟨fun l hl => all _ ?_, fun s hs => all _ ?_⟩
  · exact List.mem_append_left _ (List.mem_map_of_mem hl)
  · exact List.mem_append_right _ (List.mem_map_of_mem hs)

end Answers.Satisfy

/-! ## Parts of a form -/

namespace Lowering

variable {α β : Type} {R : α → β → Prop} {T : β → Prop} {b : β}

/-- What holds of anything that the part gives holds of what it gave. -/
theorem of_rel {part : Option α} {result : Option β} (given : Option.Rel R part result)
    (h : ∀ a, part = some a → ∀ b, R a b → T b) : ∀ b, result = some b → T b := by
  intro b hb
  obtain ⟨a, found, gives⟩ := exists_of_rel given hb
  exact h a found b gives

theorem of_forall₂ {parts : List α} {results : List β} (given : List.Forall₂ R parts results)
    (h : ∀ a ∈ parts, ∀ b, R a b → T b) : ∀ b ∈ results, T b := by
  intro b hb
  obtain ⟨a, ha, gives⟩ := exists_of_forall₂ given hb
  exact h a ha b gives

/-- What holds of the members of every group holds of all of them. -/
theorem of_forall₂_flatten {R : α → List β → Prop} {parts : List α} {groups : List (List β)}
    (given : List.Forall₂ R parts groups) (h : ∀ a ∈ parts, ∀ bs, R a bs → ∀ b ∈ bs, T b) :
    ∀ b ∈ groups.flatten, T b := by
  intro b hb
  obtain ⟨bs, hbs, hb⟩ := List.mem_flatten.mp hb
  obtain ⟨a, ha, gives⟩ := exists_of_forall₂ given hbs
  exact h a ha bs gives b hb

theorem exists_of_mem_items {list : Option RawNode} {p : RawNode} (hp : p ∈ items list) :
    ∃ l, list = some l ∧ p ∈ l.namedChildren := by
  cases list with
  | none => exact absurd hp List.not_mem_nil
  | some l => exact ⟨l, rfl, hp⟩

theorem mem_nodes_of_mem_items {raw p : RawNode} {list : Option RawNode}
    (found : ∀ l, list = some l → l ∈ raw.nodes) (hp : p ∈ items list) : p ∈ raw.nodes := by
  obtain ⟨l, hl, hp⟩ := exists_of_mem_items hp
  exact RawNode.mem_nodes_trans (found l hl) (l.namedChildren_subset_nodes hp)

end Lowering

end JavaSyntax
