import JavaSyntax.Raw.Basic
import JavaSyntax.Text.Excerpt

/-!
# Damage — where a source is not Java

A parser never refuses a source: it marks what it skipped (errors) and what it supplied (missing
tokens). `RawNode.damage` finds the outermost marks in pre-order, and `RawNode.firstError?` the
first skipped text. Both keep the nodes still to be searched in a list, the next one first, and look
only below nodes that say that they contain errors.
-/

namespace JavaSyntax

/-- A source text and its raw tree. -/
structure ParseResult where
  source : String
  root : RawNode

/-- One place of damage in a source, with one-based line and column. -/
structure DamageReport where
  span : Span
  line : Nat
  column : Nat
  /-- The beginning of the damaged text. -/
  context : String
  message : String
  deriving DecidableEq, Repr

namespace RawNode

/-- The outermost errors and missing tokens among the pending nodes and below them. A mark is not
searched further, and a node is searched only if it says that it contains errors; its children then
come before all that is pending. -/
def damageAmong : List RawNode → List RawNode
  | [] => []
  | r :: pending =>
    if r.isError || r.isMissing then r :: damageAmong pending
    else if r.containsErrors then damageAmong (r.children ++ pending)
    else damageAmong pending
termination_by pending => (nodesIn pending).length
decreasing_by all_goals
  have := length_nodesIn_children_lt r
  simp only [nodesIn_append, nodesIn, List.length_append]
  omega

/-- The outermost errors and missing tokens, in pre-order. -/
def damage (root : RawNode) : List RawNode := damageAmong [root]

/-- The first error among the pending nodes and below them. -/
def firstErrorAmong? : List RawNode → Option RawNode
  | [] => none
  | r :: pending =>
    if r.isError then some r
    else if r.containsErrors then firstErrorAmong? (r.children ++ pending)
    else firstErrorAmong? pending
termination_by pending => (nodesIn pending).length
decreasing_by all_goals
  have := length_nodesIn_children_lt r
  simp only [nodesIn_append, nodesIn, List.length_append]
  omega

/-- The first error in pre-order. -/
def firstError? (root : RawNode) : Option RawNode := firstErrorAmong? [root]

/-- What a mark of damage is reported as. -/
def damageReport (source : String) (r : RawNode) : DamageReport :=
  let context := excerpt (r.text source)
  { span := r.span
    line := r.position.1
    column := r.position.2
    context
    message :=
      if r.isMissing then s!"expected `{r.tag}`"
      else if context.isEmpty then "unexpected end of input"
      else s!"unexpected `{context}`" }

end RawNode

namespace ParseResult

def hasErrors (parsed : ParseResult) : Bool := parsed.root.containsErrors

/-- The reports of all damage, in the order of the source. -/
def errors (parsed : ParseResult) : List DamageReport :=
  parsed.root.damage.map (RawNode.damageReport parsed.source)

end ParseResult

end JavaSyntax
