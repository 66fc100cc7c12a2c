import JavaSyntax.Lowering.Annotation

/-!
# Variables and parameters

A declaration of several variables becomes one variable for each declarator. All have the modifiers
and the type of the declaration; brackets after a name wrap the type of that variable alone.
-/

namespace JavaSyntax

namespace Lowering

/-- The value of a declarator or an element of such a value, where bare braces are an array without a
type. -/
def initializer (raw : RawNode) : Lowering Expression :=
  if raw.tag == "array_initializer" then nested .arrayElements raw done else expression raw

/-- What array elements between braces consist of, where they are the value of a declarator. -/
def arrayElementsBody (raw : RawNode) : Lowering Expression := do
  let elements ← each initializer raw.namedChildren
  checked (Checked.newArray raw.span none [] elements)

/-- One declarator of a declaration that starts at `span`. -/
def declarator (source : String) (span : Span) (modifiers : Option Modifiers)
    (type : Option Expression) (raw : RawNode) : Lowering VariableDeclaration := do
  let value ← optional initializer (raw.field? "value")
  checked (Checked.variableDeclaration (span.through raw.span) modifiers
    (withDimensions type (raw.field? "dimensions"))
    ((raw.field? "name").map (identifier source)) value)

/-- A declaration of fields, constants or local variables: one variable for each declarator, each
from the start of the declaration to the end of its own declarator. -/
def variableDeclarations (source : String) (raw : RawNode) : Lowering (List VariableDeclaration) := do
  let modifiers ← modifiersOf source raw
  let type ← optional typeExpression (raw.field? "type")
  each (declarator source raw.span modifiers type) (raw.fields "declarator")

/-- A variable that is declared alone: a parameter, the variable of an enhanced `for`, or a
resource with its value. It reaches from its modifiers or type to its value, brackets or name, so
that the variable of a loop does not cover the loop. -/
def declaredVariable (source : String) (raw : RawNode) (value : Option RawNode) :
    Lowering VariableDeclaration := do
  let modifiers ← modifiersOf source raw
  let declared ← optional typeExpression (raw.field? "type")
  let type := withDimensions declared (raw.field? "dimensions")
  let name := raw.field? "name"
  let first := (raw.childOfTag? "modifiers").or (raw.field? "type")
  let last := (value.or (raw.field? "dimensions")).or name
  let start := (first.map RawNode.span).getD raw.span
  let stop := (last.map RawNode.span).getD raw.span
  let value ← optional expression value
  checked (Checked.variableDeclaration (start.through stop) modifiers type
    (name.map (identifier source)) value)

/-- `T... name`: the type is an array type up to the dots. -/
def spreadParameter (source : String) (raw : RawNode) : Lowering VariableDeclaration := do
  let modifiers ← modifiersOf source raw
  let element ← optional typeExpression
    (raw.namedChildren.find? fun child =>
      child.tag != "modifiers" && child.tag != "variable_declarator")
  let variadic :=
    match element, raw.findToken? "..." with
    | some base, some dots => some (arrayOf base dots)
    | other, _ => other
  let declarator := raw.childOfTag? "variable_declarator"
  let type := withDimensions variadic (declarator.bind fun found => found.field? "dimensions")
  let value ← optional initializer (declarator.bind fun found => found.field? "value")
  checked (Checked.variableDeclaration raw.span modifiers type
    ((declarator.bind fun found => found.field? "name").map (identifier source)) value)

def parameter (source : String) (raw : RawNode) : Lowering VariableDeclaration :=
  match raw.tag with
  | "formal_parameter" => declaredVariable source raw none
  | "spread_parameter" => spreadParameter source raw
  | _ => unsupported raw

/-- The parameters between parentheses. -/
def parameters (source : String) (list : Option RawNode) : Lowering (List VariableDeclaration) :=
  listed (parameter source) list

end Lowering

end JavaSyntax
