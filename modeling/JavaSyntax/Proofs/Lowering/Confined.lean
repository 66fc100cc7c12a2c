import JavaSyntax.Lowering.Run
import JavaSyntax.Proofs.Raw.Nodes

/-!
# Confined lowerings — what a lowering may ask for and what it may be refused for

A lowering is a tree of requests, so it can be said of it, before it is run, which requests and
refusals occur in it (`Lowering.Confined`). Lowerings of a node are of two sorts: those that ask only
for nodes strictly inside it (`Lowering.Inside`), and those that may ask for the node itself
(`Lowering.Over`), as the lowering of a part does for the node that holds it.

* `Confined.bind`, `Confined.optional`, `Confined.each` and so on: a lowering is confined as its
  steps are;
* `Confined.run_error`: an error of a run is a refusal of the lowering or that of a request.

A refusal is confined along with the requests, because both are needed at the same places: what is
refused has to be located inside the node as well. Nesting that is too deep is no refusal of a lowering
(`RawNode.Refusal.ne_nestingTooDeep`). It is what a request is answered when the room is used up, so it
comes in with the run and not with the text of a lowering.
-/

namespace JavaSyntax

/-! ## Refusals -/

/-- What the lowering of a node may be refused for, too deep nesting apart. -/
inductive RawNode.Refusal (raw : RawNode) : SyntaxError → Prop where
  | unsupported {q : RawNode} (inside : q ∈ raw.nodes) : raw.Refusal q.unsupported
  | tree (error : TreeError) : raw.Refusal (.tree error)
  | snippetShape (expected found : String) : raw.Refusal (.snippetShape expected found)

namespace RawNode.Refusal

variable {raw p : RawNode} {error : SyntaxError}

/-- What a part can be refused for, the whole can. -/
theorem mono (h : p.Refusal error) (hp : p ∈ raw.nodes) : raw.Refusal error := by
  cases h with
  | unsupported inside => exact .unsupported (mem_nodes_trans hp inside)
  | tree error => exact .tree error
  | snippetShape expected found => exact .snippetShape expected found

/-- No lowering refuses a node for its depth. Only the answer to a request does. -/
theorem ne_nestingTooDeep (h : raw.Refusal error) (limit line column : Nat) :
    error ≠ .nestingTooDeep limit line column := by
  cases h <;> exact SyntaxError.noConfusion

end RawNode.Refusal

namespace Lowering

variable {α β : Type} {asked : Construct → RawNode → Prop} {refused : SyntaxError → Prop}

/-! ## Confinement -/

/-- Whether a lowering asks only for what `asked` allows and is refused only for what `refused`
allows, whatever its requests are answered. -/
def Confined (asked : Construct → RawNode → Prop) (refused : SyntaxError → Prop) :
    Lowering α → Prop
  | done _ => True
  | refuse error => refused error
  | nested construct raw next =>
    asked construct raw ∧ ∀ result, (next result).Confined asked refused

namespace Confined

/-- A value asks for nothing. -/
theorem pure (a : α) : (Pure.pure a : Lowering α).Confined asked refused := trivial

/-- A refusal has to be one of those allowed. -/
theorem refuse {error : SyntaxError} (h : refused error) :
    (Lowering.refuse error : Lowering α).Confined asked refused := h

/-- A single request has to be one of those allowed. -/
theorem request {construct : Construct} {raw : RawNode} (h : asked construct raw) :
    (nested construct raw done).Confined asked refused := ⟨h, fun _ => trivial⟩

/-- The second step is confined for every result of the first, so it does not matter which one there
is. The induction goes through the requests of the first step. -/
theorem bind {x : Lowering α} {f : α → Lowering β} (hx : x.Confined asked refused)
    (hf : ∀ a, (f a).Confined asked refused) : (x >>= f).Confined asked refused := by
  induction x with
  | done a => exact hf a
  | refuse error => exact hx
  | nested construct raw next ih => exact ⟨hx.1, fun result => ih result (hx.2 result)⟩

/-- What follows a confined step and asks for nothing is confined. -/
theorem map {x : Lowering α} {f : α → β} (hx : x.Confined asked refused) :
    (x >>= fun a => Pure.pure (f a)).Confined asked refused :=
  hx.bind fun _ => .pure _

/-- A lowering confined to less is confined to more. -/
theorem mono {asked' : Construct → RawNode → Prop} {refused' : SyntaxError → Prop}
    {x : Lowering α} (hx : x.Confined asked refused)
    (wider : ∀ construct raw, asked construct raw → asked' construct raw)
    (looser : ∀ error, refused error → refused' error) : x.Confined asked' refused' := by
  induction x with
  | done a => trivial
  | refuse error => exact looser error hx
  | nested construct raw next ih =>
    exact ⟨wider construct raw hx.1, fun result => ih result (hx.2 result)⟩

/-- A part that may be absent. -/
theorem optional {lower : β → Lowering α} {part : Option β}
    (h : ∀ p, part = some p → (lower p).Confined asked refused) :
    (Lowering.optional lower part).Confined asked refused := by
  cases part with
  | none => exact .pure _
  | some p => exact (h p rfl).map

/-- A list of parts, each of which is confined. -/
theorem each {lower : β → Lowering α} {parts : List β}
    (h : ∀ p ∈ parts, (lower p).Confined asked refused) :
    (Lowering.each lower parts).Confined asked refused := by
  induction parts with
  | nil => exact .pure _
  | cons p rest ih =>
    rw [List.forall_mem_cons] at h
    exact h.1.bind fun _ => (ih h.2).map

/-- The members of a list that may be absent. -/
theorem listed {lower : RawNode → Lowering α} {list : Option RawNode}
    (h : ∀ found, list = some found → ∀ p ∈ found.namedChildren, (lower p).Confined asked refused) :
    (Lowering.listed lower list).Confined asked refused := by
  cases list with
  | none => exact .pure _
  | some found => exact .each (h found rfl)

/-- Like `each`, where a part makes several things. -/
theorem gather {lower : β → Lowering (List α)} {parts : List β}
    (h : ∀ p ∈ parts, (lower p).Confined asked refused) :
    (Lowering.gather lower parts).Confined asked refused :=
  (each h).map

/-! ## Errors of a run -/

/-- An error of a run is a refusal of the lowering or that of something that it asked for. -/
theorem run_error {below : (construct : Construct) → RawNode → Except SyntaxError construct.Result}
    {x : Lowering α} {error : SyntaxError} (hx : x.Confined asked refused)
    (h : x.run below = .error error) :
    refused error ∨ ∃ construct raw, asked construct raw ∧ below construct raw = .error error := by
  induction x with
  | done a => exact absurd h (by simp [run])
  | refuse found =>
    left
    rw [run, Except.error.injEq] at h
    exact h ▸ hx
  | nested construct raw next ih =>
    rw [run] at h
    cases hb : below construct raw with
    | error found =>
      simp only [hb, Except.error.injEq] at h
      exact .inr ⟨construct, raw, hx.1, h ▸ hb⟩
    | ok result =>
      simp only [hb] at h
      exact ih result (hx.2 result) h

end Confined

/-! ## Lowerings of a node -/

variable {raw p : RawNode} {x : Lowering α}

/-- Whether a lowering asks only for nodes strictly inside `raw`. -/
def Inside (raw : RawNode) (x : Lowering α) : Prop :=
  x.Confined (fun _ q => raw.Encloses q) raw.Refusal

/-- Whether a lowering asks only for `raw` and nodes inside it. -/
def Over (raw : RawNode) (x : Lowering α) : Prop :=
  x.Confined (fun _ q => q ∈ raw.nodes) raw.Refusal

/-- What lies strictly inside a node lies inside it. -/
theorem Inside.over (h : x.Inside raw) : x.Over raw :=
  h.mono (fun _ _ => RawNode.Encloses.mem_nodes) fun _ => id

/-- What a node's part is lowered to asks only for nodes strictly inside the node. -/
theorem Over.inside (h : x.Over p) (hp : p ∈ raw.parts) : x.Inside raw :=
  h.mono (fun _ _ hq => ⟨p, hp, hq⟩)
    fun _ refusal => refusal.mono (RawNode.encloses_of_part hp).mem_nodes

/-- A lowering inside a part is one inside the whole. -/
theorem Inside.of_part (h : x.Inside p) (hp : p ∈ raw.parts) : x.Inside raw :=
  h.over.inside hp

/-- Asking for the node itself. -/
theorem over_request (construct : Construct) (raw : RawNode) : (nested construct raw done).Over raw :=
  .request (RawNode.mem_nodes_self raw)

/-- The node itself is refused. -/
theorem over_unsupported (raw : RawNode) : (unsupported raw : Lowering α).Over raw :=
  .refuse (.unsupported (RawNode.mem_nodes_self raw))

/-- A refusal is no request, so refusing the node itself asks for nothing outside. -/
theorem inside_unsupported (raw : RawNode) : (unsupported raw : Lowering α).Inside raw :=
  .refuse (.unsupported (RawNode.mem_nodes_self raw))

/-- A node that is not made is refused for its parts, with an error of the tree. -/
theorem inside_checked (raw : RawNode) (made : Except TreeError α) :
    (checked made).Inside raw := by
  cases made with
  | ok value => exact .pure value
  | error error => exact .refuse (.tree error)

section

variable {lower : RawNode → Lowering β}

/-- A part that a lookup finds, lowered to what asks for nothing outside it. -/
theorem inside_optional {part : Option RawNode} (found : ∀ p, part = some p → p ∈ raw.parts)
    (h : ∀ p, (lower p).Over p) : (optional lower part).Inside raw :=
  .optional fun p hp => (h p).inside (found p hp)

/-- A part that is held under a name. -/
theorem inside_field (name : String) (h : ∀ p, (lower p).Over p) :
    (optional lower (raw.field? name)).Inside raw :=
  inside_optional (fun _ => RawNode.mem_parts_of_field?) h

/-- A part that is found by its tag. -/
theorem inside_childOfTag (tag : String) (h : ∀ p, (lower p).Over p) :
    (optional lower (raw.childOfTag? tag)).Inside raw :=
  inside_optional (fun _ => RawNode.mem_parts_of_childOfTag?) h

/-- A named child that a lookup finds. -/
theorem inside_namedChild {part : Option RawNode}
    (found : ∀ p, part = some p → p ∈ raw.namedChildren) (h : ∀ p, (lower p).Over p) :
    (optional lower part).Inside raw :=
  inside_optional (fun p hp => raw.namedChildren_subset_parts (found p hp)) h

/-- Several parts, whichever lookup they come from. -/
theorem inside_each {parts : List RawNode} (found : parts ⊆ raw.parts)
    (h : ∀ p, (lower p).Over p) : (each lower parts).Inside raw :=
  .each fun p hp => (h p).inside (found hp)

/-- The members of a list, two levels below. -/
theorem inside_listed {list : Option RawNode} (found : ∀ p, list = some p → p ∈ raw.parts)
    (h : ∀ p, (lower p).Over p) : (listed lower list).Inside raw :=
  .listed fun l hl p hp =>
    ((h p).inside (l.namedChildren_subset_parts hp)).of_part (found l hl)

end

/-- A block asks for its statements at the same node. -/
theorem over_block (raw : RawNode) : (block raw).Over raw := (over_request .statements raw).map

end Lowering

end JavaSyntax
