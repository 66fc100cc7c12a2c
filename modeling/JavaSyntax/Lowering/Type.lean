import JavaSyntax.Lowering.Basic

/-!
# Names and types

A dotted name becomes a member select for each dot. A pair of brackets after a type or a name wraps
the type in an array type that reaches from the type to the closing bracket. Annotations on types
have no place in typed trees and are left out.
-/

namespace JavaSyntax

namespace Lowering

/-! ## Names -/

/-- The identifier that a raw name or keyword makes. -/
def identifier (source : String) (raw : RawNode) : Identifier := ⟨raw.token source⟩

/-- `scope.name`, spanning both. -/
def select (source : String) (scope : Expression) (name : RawNode) : Expression :=
  .memberSelect (scope.span.through name.span) scope (identifier source name)

/-- A dotted name whose raw node has a scope and a name. -/
def scopedName (source : String) (raw : RawNode) : Lowering Expression := do
  let scope ← optional expression (raw.field? "scope")
  checked (Checked.memberSelect raw.span scope ((raw.field? "name").map (identifier source)))

/-! ## Brackets -/

/-- An array type from its element to the end of `closing`. -/
def arrayOf (element : Expression) (closing : RawNode) : Expression :=
  .arrayType (element.span.through closing.span) element

/-- The closing brackets of a list of `[]` pairs. -/
def closingBrackets (dimensions : RawNode) : List RawNode :=
  dimensions.tokens.filter fun token => token.tag == "]"

/-- A type with one array type around it for each pair of brackets. -/
def withDimensions (element : Option Expression) (dimensions : Option RawNode) :
    Option Expression :=
  match dimensions with
  | none => element
  | some pairs => element.map fun base => (closingBrackets pairs).foldl arrayOf base

/-! ## Types -/

/-- The tags of types that differ from those of expressions. -/
def typeTags : List String :=
  ["integral_type", "floating_point_type", "boolean_type", "void_type", "type_identifier",
   "scoped_type_identifier", "generic_type", "array_type", "annotated_type", "wildcard"]

def isAnnotationUse (raw : RawNode) : Bool :=
  raw.tag == "annotation" || raw.tag == "marker_annotation"

/-- The types between angle brackets; none are the diamond. -/
def typeArguments (list : Option RawNode) : Lowering (List Expression) :=
  listed typeExpression list

/-- `?`, `? extends T` or `? super T`. -/
def wildcard (raw : RawNode) : Lowering Expression := do
  let kind : WildcardKind :=
    if raw.hasToken "extends" then .upper
    else if raw.hasToken "super" || (raw.childOfTag? "super").isSome then .lower
    else .unbounded
  let isBound (child : RawNode) : Bool := child.tag != "super" && !isAnnotationUse child
  let bound ← optional typeExpression (raw.namedChildren.filter isBound).getLast?
  checked (Checked.wildcard (.wildcard kind) raw.span bound)

/-- What a type consists of. -/
def typeBody (source : String) (raw : RawNode) : Lowering Expression :=
  match raw.tag with
  | "integral_type" | "floating_point_type" | "boolean_type" | "void_type" =>
    return .primitiveType (raw.token source)
  | "type_identifier" | "identifier" => return .identifier (identifier source raw)
  | "scoped_type_identifier" =>
    match raw.namedChildren with
    | qualifier :: second :: rest => do
      let scope ← typeExpression qualifier
      return select source scope (rest.getLastD second)
    | _ => unsupported raw
  | "generic_type" => do
    let base ← optional typeExpression
      (raw.namedChildren.find? fun child => child.tag != "type_arguments")
    let arguments ← typeArguments (raw.childOfTag? "type_arguments")
    checked (Checked.parameterizedType raw.span base arguments)
  | "array_type" => do
    let element ← optional typeExpression (raw.field? "element")
    match withDimensions element (raw.field? "dimensions") with
    | some array => return array
    | none => checked (Checked.arrayType raw.span none)
  | "annotated_type" =>
    match raw.namedChildren.getLast? with
    | some inner => typeExpression inner
    | none => unsupported raw
  | "wildcard" => wildcard raw
  | "scoped_identifier" => scopedName source raw
  | _ => unsupported raw

end Lowering

end JavaSyntax
