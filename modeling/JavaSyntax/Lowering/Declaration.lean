import JavaSyntax.Lowering.Expression

/-!
# Types and their members

A type body holds fields, methods, constructors, initializers, constants of an enum, types, and
semicolons that stand alone. The members of an enum after its constants are wrapped in a raw node
of their own; they count as members of the enum, in that place, and the first semicolon among them
separates them from the constants and is no member.
-/

namespace JavaSyntax

namespace Lowering

/-! ## Headers -/

/-- The kind of type that a tag declares. -/
def typeKind? (tag : String) : Option TypeKind :=
  match tag with
  | "class_declaration" => some .classType
  | "interface_declaration" => some .interfaceType
  | "enum_declaration" => some .enumType
  | "annotation_type_declaration" => some .annotationType
  | _ => none

def isTypeDeclaration (raw : RawNode) : Bool := (typeKind? raw.tag).isSome

/-- One type parameter with its bounds. -/
def typeParameter (source : String) (raw : RawNode) : Lowering TypeParameter := do
  let bounds ← listed typeExpression (raw.childOfTag? "type_bound")
  checked (Checked.typeParameter raw.span
    ((raw.childOfTag? "type_identifier").map (identifier source)) bounds)

/-- The type parameters between angle brackets. -/
def typeParameters (source : String) (list : Option RawNode) : Lowering (List TypeParameter) :=
  match list with
  | none => return []
  | some found => each (typeParameter source) (found.childrenOfTag "type_parameter")

/-! ## Members -/

/-- A method, a constructor or an element of an annotation type. Brackets after the parameters wrap
the result type. -/
def method (source : String) (kind : CallableKind) (raw : RawNode) :
    Lowering MethodDeclaration := do
  let modifiers ← modifiersOf source raw
  let types ← typeParameters source (raw.field? "type_parameters")
  let declared ← optional typeExpression (raw.field? "type")
  let returnType := withDimensions declared (raw.field? "dimensions")
  let parameters ← parameters source (raw.field? "parameters")
  let throws ← listed typeExpression (raw.childOfTag? "throws")
  let body ← optional block (raw.field? "body")
  let value ← optional (annotationValue source) (raw.field? "value")
  checked (Checked.method (.callable kind) raw.span modifiers types returnType
    ((raw.field? "name").map (identifier source)) parameters throws body value)

/-- A constant of an enum. -/
def enumConstant (source : String) (raw : RawNode) : Lowering EnumConstant := do
  let modifiers ← modifiersOf source raw
  let values ← arguments (raw.field? "arguments")
  let body ← optional anonymousClass (raw.field? "body")
  checked (Checked.enumConstant raw.span modifiers ((raw.field? "name").map (identifier source))
    values body)

/-- The statements of a static initializer. -/
def staticInitializer (raw : RawNode) : Lowering Block := do
  let body ← optional statements (raw.childOfTag? "block")
  return ⟨.staticInitializer, raw.span, body.getD []⟩

/-- The members that one declaration in a type body makes. -/
def member (source : String) (raw : RawNode) : Lowering (List Member) :=
  match raw.tag with
  | "field_declaration" | "constant_declaration" =>
    return (← variableDeclarations source raw).map .variableDeclaration
  | "method_declaration" | "annotation_type_element_declaration" =>
    return [.method (← method source .method raw)]
  | "constructor_declaration" => return [.method (← method source .constructor raw)]
  | "enum_constant" => return [.enumConstant (← enumConstant source raw)]
  | "block" => return [.block ⟨.instanceInitializer, raw.span, ← statements raw⟩]
  | "static_initializer" => return [.block (← staticInitializer raw)]
  | _ =>
    if isTypeDeclaration raw then return [.typeDeclaration (← typeDeclaration raw)]
    else unsupported raw

/-! ## Bodies -/

/-- What stands in a type body: a semicolon alone, or a declaration. -/
inductive BodyEntry where
  | empty (span : Span)
  | declaration (raw : RawNode)

mutual

/-- What stands among the given parts. If `separated` still holds, the next semicolon separates and
is no entry. -/
def bodyEntriesIn (separated : Bool) : List RawNode → List BodyEntry
  | [] => []
  | part :: rest =>
    if !part.isKept then bodyEntriesIn separated rest
    else if part.isNamed then
      (if part.tag == "enum_body_declarations" then nestedEntries part
       else [.declaration part]) ++ bodyEntriesIn separated rest
    else if part.tag == ";" then
      if separated then bodyEntriesIn false rest
      else .empty part.span :: bodyEntriesIn false rest
    else bodyEntriesIn separated rest

/-- What stands among the members of an enum after its constants. -/
def nestedEntries : RawNode → List BodyEntry
  | .node _ parts => bodyEntriesIn true parts

end

/-- What stands in a type body. -/
def bodyEntries (body : RawNode) : List BodyEntry := bodyEntriesIn false body.parts

def bodyEntry (source : String) (entry : BodyEntry) : Lowering (List Member) :=
  match entry with
  | .empty span => return [.empty span]
  | .declaration raw => member source raw

/-- The members of a type body. -/
def members (source : String) (body : RawNode) : Lowering (List Member) :=
  gather (bodyEntry source) (bodyEntries body)

/-- The class that a body without a header makes. -/
def anonymousClassBody (source : String) (body : RawNode) : Lowering TypeDeclaration :=
  return Checked.anonymousClass body.span (← members source body)

/-- The types that a declared type extends or implements besides its superclass. -/
def superInterfaces (raw : RawNode) : Option RawNode :=
  ((raw.field? "interfaces").or (raw.childOfTag? "extends_interfaces")).bind fun clause =>
    clause.childOfTag? "type_list"

/-- What a type declaration consists of. Lists of permitted subclasses are refused. -/
def typeDeclarationBody (source : String) (raw : RawNode) : Lowering TypeDeclaration :=
  match typeKind? raw.tag with
  | none => unsupported raw
  | some kind =>
    match raw.field? "permits" with
    | some permits => unsupported permits
    | none => do
      let modifiers ← modifiersOf source raw
      let types ← typeParameters source (raw.field? "type_parameters")
      let superclass ← optional typeExpression
        ((raw.field? "superclass").bind fun clause => clause.namedChildren.head?)
      let interfaces ← listed typeExpression (superInterfaces raw)
      let held ← optional (members source) (raw.field? "body")
      checked (Checked.typeDeclaration (.typeDeclaration kind) raw.span modifiers
        ((raw.field? "name").map (identifier source)) types superclass interfaces
        (held.getD []))

end Lowering

end JavaSyntax
