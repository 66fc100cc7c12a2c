import JavaSyntax.Lowering.Type

/-!
# Modifiers and annotations

An annotation has a name and values. A value that is given a name becomes an assignment to that
name, and values between braces an array without a type.
-/

namespace JavaSyntax

namespace Lowering

mutual

/-- A value of an annotation: `name = value`, values between braces, another annotation, or an
expression. -/
def annotationValue (source : String) : RawNode → Lowering Expression
  | .node label parts =>
    let raw := RawNode.node label parts
    match label.tag with
    | "element_value_pair" =>
      match raw.findToken? "=" with
      | none => unsupported raw
      | some operator => do
        let key := (raw.field? "key").map fun name => .identifier (identifier source name)
        let value ← namedValue source parts
        checked (Checked.assignment (.assignment .simple) raw.span key (operator.token source)
          value)
    | "element_value_array_initializer" => nested .annotationValues raw done
    | "annotation" | "marker_annotation" => return .annotationUse (← annotationUse raw)
    | _ => expression raw

/-- The value of a pair: the first of its parts that is held as the value. -/
def namedValue (source : String) : List RawNode → Lowering (Option Expression)
  | [] => return none
  | part :: rest =>
    if part.label.field == some "value" then return some (← annotationValue source part)
    else namedValue source rest

end

/-- What values between braces consist of. -/
def annotationValuesBody (source : String) (raw : RawNode) : Lowering Expression := do
  let elements ← each (annotationValue source) raw.namedChildren
  checked (Checked.newArray raw.span none [] elements)

/-- What an annotation consists of. -/
def annotationBody (source : String) (raw : RawNode) : Lowering AnnotationUse := do
  let type ← optional expression (raw.field? "name")
  let arguments ← listed (annotationValue source) (raw.field? "arguments")
  checked (Checked.annotationUse raw.span type arguments)

/-- The modifiers of a declaration, if it has any. -/
def modifiersOf (source : String) (raw : RawNode) : Lowering (Option Modifiers) :=
  match raw.childOfTag? "modifiers" with
  | none => return none
  | some list => do
    let keywords := list.tokens.map (RawNode.token source)
    let annotations ← each annotationUse (list.namedChildren.filter isAnnotationUse)
    return some ⟨list.span, keywords, annotations⟩

end Lowering

end JavaSyntax
