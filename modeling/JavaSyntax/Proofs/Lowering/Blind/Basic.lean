import JavaSyntax.Lowering.Run
import JavaSyntax.Proofs.Raw.Comment

/-!
# Blind lowerings — those that do not see comments

A lowering of a node without its comments cannot ask for the same nodes as one of the node itself,
since what it finds has no comments either. It is the same apart from that: it asks for the same
constructs in the same order, of the same nodes without comments, and does the same with each answer
(`Lowering.Strips`). A lowering of nodes is blind if this is so at every node (`Lowering.Blind`).

* `Strips.bind`, `Strips.optional`, `Strips.each` and so on: the steps of a lowering, one by one;
* `run_redirect`: redirected requests are answered where they are redirected to.

The relation is an equation between lowerings and not a statement about runs: two lowerings that are one
up to the nodes that they ask for have the same runs wherever requests are answered alike, at any room
and for any source. Each step of a lowering keeps the relation, so a lowering is blind by following its
text, and the only thing to be shown at a step is that the lookup in it commutes with `stripped`.
-/

namespace JavaSyntax

namespace Lowering

variable {α β : Type}

/-- The same lowering with each request made of another node. -/
def redirect (f : RawNode → RawNode) : Lowering α → Lowering α
  | done value => done value
  | refuse error => refuse error
  | nested construct raw next => nested construct (f raw) fun result => (next result).redirect f

/-- Requests are redirected in the first step and in what follows it. -/
theorem redirect_bind (f : RawNode → RawNode) (x : Lowering α) (next : α → Lowering β) :
    (x >>= next).redirect f = x.redirect f >>= fun a => (next a).redirect f := by
  induction x with
  | done a => rfl
  | refuse error => rfl
  | nested construct raw later ih =>
    rw [nested_bind, redirect, redirect, nested_bind]
    exact congrArg _ (funext ih)

/-- Redirected requests are answered where they are redirected to. -/
theorem run_redirect (f : RawNode → RawNode)
    (below : (construct : Construct) → RawNode → Except SyntaxError construct.Result)
    (x : Lowering α) :
    (x.redirect f).run below = x.run fun construct raw => below construct (f raw) := by
  induction x with
  | done a => rfl
  | refuse error => rfl
  | nested construct raw next ih =>
    rw [redirect, run, run]
    cases below construct (f raw) with
    | ok result => exact ih result
    | error error => rfl

/-! ## Steps -/

/-- Whether `x` is `y` with each request made of the node without its comments. -/
def Strips (x y : Lowering α) : Prop := x = y.redirect RawNode.stripped

/-- Whether a lowering of nodes does not see their comments. -/
def Blind (lower : RawNode → Lowering α) : Prop :=
  ∀ raw : RawNode, (lower raw.stripped).Strips (lower raw)

namespace Strips

/-- Two values without a request have to be the same value. -/
theorem pure {a b : α} (h : a = b) : (Pure.pure a : Lowering α).Strips (Pure.pure b) := by
  rw [h]
  rfl

/-- Two refusals have to be of one error. -/
theorem refuse {error error' : SyntaxError} (h : error = error') :
    (Lowering.refuse error : Lowering α).Strips (Lowering.refuse error') := by
  rw [h]
  rfl

/-- A node is unsupported for its tag and its place, with its comments or without. -/
theorem unsupported (raw : RawNode) :
    (Lowering.unsupported raw.stripped : Lowering α).Strips (Lowering.unsupported raw) :=
  .refuse raw.unsupported_stripped

/-- Parts that make the same node, or fail to in the same way. -/
theorem checked {made made' : Except TreeError α} (h : made = made') :
    (Lowering.checked made).Strips (Lowering.checked made') := by
  rw [h]
  cases made' <;> rfl

/-- A step is followed by steps that agree on each answer to it. -/
theorem bind {x y : Lowering α} {f g : α → Lowering β} (h : x.Strips y)
    (next : ∀ a, (f a).Strips (g a)) : (x >>= f).Strips (y >>= g) := by
  unfold Strips
  rw [redirect_bind, ← h]
  exact congrArg _ (funext next)

/-- What follows a step and asks for nothing. -/
theorem map {x y : Lowering α} {f g : α → β} (h : x.Strips y) (same : f = g) :
    (x >>= fun a => Pure.pure (f a)).Strips (y >>= fun a => Pure.pure (g a)) :=
  h.bind fun _ => .pure (by rw [same])

/-- A part that may be absent is absent on both sides. -/
theorem optional {lower : RawNode → Lowering α} (h : Blind lower) (part : Option RawNode) :
    (Lowering.optional lower (part.map RawNode.stripped)).Strips
      (Lowering.optional lower part) := by
  cases part with
  | none => exact .pure rfl
  | some raw => exact (h raw).map rfl

/-- Parts that are lowered in their order, whatever they come from. -/
theorem each_map {lower low : β → Lowering α} {f : β → β} (parts : List β)
    (h : ∀ p, (lower (f p)).Strips (low p)) :
    (Lowering.each lower (parts.map f)).Strips (Lowering.each low parts) := by
  induction parts with
  | nil => exact .pure rfl
  | cons p rest ih => exact (h p).bind fun _ => ih.map rfl

/-- A list of nodes, lowered one by one. -/
theorem each {lower : RawNode → Lowering α} (h : Blind lower) (parts : List RawNode) :
    (Lowering.each lower (parts.map RawNode.stripped)).Strips (Lowering.each lower parts) :=
  each_map parts h

/-- The members of a list are its named children, none of which is a comment. -/
theorem listed {lower : RawNode → Lowering α} (h : Blind lower) (list : Option RawNode) :
    (Lowering.listed lower (list.map RawNode.stripped)).Strips (Lowering.listed lower list) := by
  cases list with
  | none => exact .pure rfl
  | some found =>
    show (Lowering.each lower found.stripped.namedChildren).Strips _
    rw [RawNode.namedChildren_stripped]
    exact .each h found.namedChildren

/-- Like `each`, where a node makes several things. -/
theorem gather {lower : RawNode → Lowering (List α)} (h : Blind lower) (parts : List RawNode) :
    (Lowering.gather lower (parts.map RawNode.stripped)).Strips (Lowering.gather lower parts) :=
  (each h parts).map rfl

end Strips

/-! ## Requests -/

/-- Asking for the node at hand is blind by definition. -/
theorem blind_request (construct : Construct) :
    Blind fun raw => nested construct raw done := fun _ => rfl

/-- A block is the statements of a node with the extent of the node. -/
theorem blind_block : Blind block := by
  intro raw
  refine (blind_request .statements raw).bind fun body => .pure ?_
  rw [RawNode.span_stripped]

/-! ## Parts that a lookup finds -/

section

variable {lower : RawNode → Lowering α} (h : Blind lower) (raw : RawNode)

include h

/-- The part that is held under a name. -/
theorem strips_field (name : String) :
    (optional lower (raw.stripped.field? name)).Strips (optional lower (raw.field? name)) := by
  rw [RawNode.field?_stripped]
  exact .optional h _

/-- The first named child of a tag. -/
theorem strips_childOfTag (tag : String) :
    (optional lower (raw.stripped.childOfTag? tag)).Strips
      (optional lower (raw.childOfTag? tag)) := by
  rw [RawNode.childOfTag?_stripped]
  exact .optional h _

/-- The first named child, counted without comments on both sides. -/
theorem strips_firstNamed :
    (optional lower raw.stripped.namedChildren.head?).Strips
      (optional lower raw.namedChildren.head?) := by
  rw [RawNode.namedChildren_stripped, List.head?_map]
  exact .optional h _

/-- The second named child. -/
theorem strips_secondNamed :
    (optional lower raw.stripped.namedChildren[1]?).Strips
      (optional lower raw.namedChildren[1]?) := by
  rw [RawNode.namedChildren_stripped, List.getElem?_map]
  exact .optional h _

/-- The members of the list that is held under a name. -/
theorem strips_listedField (name : String) :
    (listed lower (raw.stripped.field? name)).Strips (listed lower (raw.field? name)) := by
  rw [RawNode.field?_stripped]
  exact .listed h _

/-- The members of the list that is found by its tag. -/
theorem strips_listedChild (tag : String) :
    (listed lower (raw.stripped.childOfTag? tag)).Strips
      (listed lower (raw.childOfTag? tag)) := by
  rw [RawNode.childOfTag?_stripped]
  exact .listed h _

/-- All named children. -/
theorem strips_eachNamed :
    (each lower raw.stripped.namedChildren).Strips (each lower raw.namedChildren) := by
  rw [RawNode.namedChildren_stripped]
  exact .each h _

/-- All parts that are held under one name. -/
theorem strips_eachField (name : String) :
    (each lower (raw.stripped.fields name)).Strips (each lower (raw.fields name)) := by
  rw [RawNode.fields_stripped]
  exact .each h _

end

end Lowering

end JavaSyntax
