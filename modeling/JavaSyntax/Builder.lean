import JavaSyntax.Build

/-!
# Builders — builds with a counter of depth

A builder keeps its configuration and a counter of how deep it is. Entering a nested construct
raises the counter and leaving it, with a result or with an error, lowers it again; a construct is
refused when the counter stands at the limit. The counter is a machine word, so raising it stops at
the largest one and lowering it at zero.
-/

namespace JavaSyntax

/-- The largest value of the counter. -/
def counterLimit : Nat := 18446744073709551615

/-- A configuration, and how deep the builder is. -/
structure Builder where
  config : BuildConfig
  depth : Nat := 0
  deriving DecidableEq, Repr

/-- An answer, and the depth at which it was given. -/
abbrev Counted (α : Type) : Type := Except SyntaxError α × Nat

/-- Runs a lowering from the given depth; `below` lowers nested constructs from theirs. -/
def Lowering.count {α : Type}
    (below : (construct : Construct) → RawNode → Nat → Counted construct.Result) :
    Lowering α → Nat → Counted α
  | done value, depth => (.ok value, depth)
  | refuse error, depth => (.error error, depth)
  | nested construct raw next, depth =>
    match below construct raw depth with
    | (.ok result, after) => (next result).count below after
    | (.error error, after) => (.error error, after)

/-- Enters a construct, lowers it and leaves it. At most `room` constructs are entered inside one
another; as long as that is no less than what the limit leaves, it makes no difference. -/
def enter (source : String) (limit : Nat) :
    (room : Nat) → (construct : Construct) → RawNode → Nat → Counted construct.Result
  | 0, _, raw, depth => (.error (raw.tooDeep limit), depth)
  | room + 1, construct, raw, depth =>
    if limit ≤ depth then (.error (raw.tooDeep limit), depth)
    else
      let answer := (Lowering.body source construct raw).count (enter source limit room)
        (min (depth + 1) counterLimit)
      (answer.1, answer.2 - 1)

/-- A build from depth zero, and the builder after it. -/
def Builder.build {α : Type} (builder : Builder) (entry : String → RawNode → Lowering α)
    (parsed : ParseResult) : Except SyntaxError α × Builder :=
  match checkDamage builder.config parsed with
  | .error error => (.error error, { builder with depth := 0 })
  | .ok () =>
    let limit := builder.config.maxDepth
    let answer := (entry parsed.source parsed.root).count (enter parsed.source limit limit) 0
    (answer.1, { builder with depth := answer.2 })

end JavaSyntax
