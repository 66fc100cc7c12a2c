import JavaSyntax.Lowering.Entry

/-!
# Running a lowering

A lowering is run by answering each of its requests for a nested construct. `lower` answers with
what the construct itself lowers to, as long as there is room for one more level of nesting, and
refuses it when there is none.

* `Lowering.run_bind`: running is done step by step;
* `lower_zero`, `lower_succ`: where nesting ends and how it goes on.
-/

namespace JavaSyntax

namespace Lowering

variable {α β : Type}

/-- The result of a lowering when nested constructs are lowered by `below`. -/
def run (below : (construct : Construct) → RawNode → Except SyntaxError construct.Result) :
    Lowering α → Except SyntaxError α
  | done value => .ok value
  | refuse error => .error error
  | nested construct raw next =>
    match below construct raw with
    | .ok result => (next result).run below
    | .error error => .error error

theorem run_bind (below : (construct : Construct) → RawNode → Except SyntaxError construct.Result)
    (x : Lowering α) (f : α → Lowering β) :
    (x >>= f).run below = (x.run below).bind fun a => (f a).run below := by
  induction x with
  | done a => rfl
  | refuse error => rfl
  | nested construct raw next ih =>
    rw [nested_bind]
    simp only [run]
    cases below construct raw with
    | ok result => exact ih result
    | error error => rfl

/-- What each construct consists of. -/
def body (source : String) : (construct : Construct) → RawNode → Lowering construct.Result
  | .expression => expressionBody source
  | .type => typeBody source
  | .statement => statementBody source
  | .statements => statementList source
  | .typeDeclaration => typeDeclarationBody source
  | .anonymousClass => anonymousClassBody source
  | .annotationUse => annotationBody source
  | .caseGroup => caseGroupBody source
  | .arrayElements => arrayElementsBody
  | .innerElements => innerElementsBody
  | .annotationValues => annotationValuesBody source

end Lowering

/-- The refusal of a construct that lies too deep. -/
def RawNode.tooDeep (limit : Nat) (raw : RawNode) : SyntaxError :=
  .nestingTooDeep limit raw.position.1 raw.position.2

/-- Lowers a construct where `room` more levels may nest, out of the `limit` that were allowed at
the start. -/
def lower (source : String) (limit : Nat) :
    (room : Nat) → (construct : Construct) → RawNode → Except SyntaxError construct.Result
  | 0, _, raw => .error (raw.tooDeep limit)
  | room + 1, construct, raw =>
    (Lowering.body source construct raw).run (lower source limit room)

theorem lower_zero (source : String) (limit : Nat) (construct : Construct) (raw : RawNode) :
    lower source limit 0 construct raw = .error (raw.tooDeep limit) := rfl

theorem lower_succ (source : String) (limit room : Nat) (construct : Construct)
    (raw : RawNode) :
    lower source limit (room + 1) construct raw =
      (Lowering.body source construct raw).run (lower source limit room) := rfl

end JavaSyntax
