import JavaSyntax.Kind

/-!
# Errors of typed trees

`TreeError` says why a node cannot be made from the parts that are given; `NotApplicable` says that
a node of some kind has no such property. Each has one wording.
-/

namespace JavaSyntax

/-- Why no node of a kind can be made of the given parts. -/
inductive TreeError where
  /-- A part that the kind needs is absent. -/
  | missingChild (kind : Kind) (slot : String)
  /-- A part is given that the kind cannot have. -/
  | unexpectedChild (kind : Kind) (slot : String)
  /-- The kind does not belong to the family of that form of node. -/
  | kindMismatch (kind : Kind) (shape : String)
  deriving DecidableEq, Repr

namespace TreeError

def message : TreeError → String
  | missingChild kind slot => s!"{kind.name} requires a `{slot}` child"
  | unexpectedChild kind slot => s!"{kind.name} cannot have a `{slot}` child"
  | kindMismatch kind shape => s!"{kind.name} is not a valid kind for a {shape} node"

end TreeError

/-- A node of this kind has no such property. -/
structure NotApplicable where
  kind : Kind
  accessor : String
  deriving DecidableEq, Repr

def NotApplicable.message (refusal : NotApplicable) : String :=
  s!"`{refusal.accessor}` is not applicable to {refusal.kind.name}"

end JavaSyntax
