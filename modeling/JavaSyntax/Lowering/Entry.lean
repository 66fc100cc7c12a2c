import JavaSyntax.Lowering.Statement

/-!
# Entries — what a whole source can be lowered to

A source is a compilation unit, or a snippet: a single expression statement, or statements.
-/

namespace JavaSyntax

namespace Lowering

/-! ## Compilation units -/

/-- What one declaration at the top of a source contributes to its unit. -/
inductive UnitPart where
  | packageAnnotationUse (use : AnnotationUse)
  | packageName (name : Expression)
  | importDeclaration (declaration : Import)
  | typeDeclaration (declaration : TypeDeclaration)

namespace UnitPart

def packageAnnotationUse? : UnitPart → Option AnnotationUse
  | packageAnnotationUse use => some use
  | _ => none

def packageName? : UnitPart → Option Expression
  | packageName name => some name
  | _ => none

def import? : UnitPart → Option Import
  | importDeclaration declaration => some declaration
  | _ => none

def type? : UnitPart → Option TypeDeclaration
  | typeDeclaration declaration => some declaration
  | _ => none

end UnitPart

/-- `import a.b.C;` or `import a.b.*;`, which selects `*` from the package. -/
def importDeclaration (source : String) (raw : RawNode) : Lowering Import := do
  let name ← optional expression (raw.namedChildren.find? fun child => child.tag != "asterisk")
  let imported :=
    match name, raw.childOfTag? "asterisk" with
    | some package, some asterisk => some (select source package asterisk)
    | plain, _ => plain
  checked (Checked.importDeclaration raw.span (raw.hasToken "static") imported)

/-- One part of a package declaration: an annotation, or else its name. -/
def packagePart (part : RawNode) : Lowering UnitPart :=
  if isAnnotationUse part then return .packageAnnotationUse (← annotationUse part)
  else return .packageName (← expression part)

/-- What one declaration at the top of a source contributes. -/
def unitParts (source : String) (raw : RawNode) : Lowering (List UnitPart) :=
  match raw.tag with
  | "package_declaration" => each packagePart raw.namedChildren
  | "import_declaration" => return [.importDeclaration (← importDeclaration source raw)]
  | _ =>
    if isTypeDeclaration raw then return [.typeDeclaration (← typeDeclaration raw)]
    else unsupported raw

/-- A whole source file. Of several package names the last one counts. -/
def compilationUnit (source : String) (root : RawNode) : Lowering CompilationUnit := do
  let parts ← gather (unitParts source) root.namedChildren
  checked (Checked.compilationUnit root.span (parts.filterMap UnitPart.packageAnnotationUse?)
    (parts.filterMap UnitPart.packageName?).getLast? (parts.filterMap UnitPart.import?)
    (parts.filterMap UnitPart.type?))

/-! ## Snippets -/

/-- What stands in a source instead of the one thing that was asked for. -/
def described (children : List RawNode) : String :=
  if children.isEmpty then "nothing" else ", ".intercalate (children.map RawNode.tag)

/-- The refusal of a snippet that is not a single expression statement. -/
def notOneExpression {α : Type} (found : String) : Lowering α :=
  refuse (.snippetShape "a single expression statement" found)

/-- The expression of a source that is a single expression statement. -/
def soleExpression (root : RawNode) : Lowering Expression :=
  match root.namedChildren with
  | [only] =>
    if only.tag == "expression_statement" then
      match only.namedChildren with
      | inner :: _ => expression inner
      | [] => notOneExpression "an empty statement"
    else notOneExpression (described [only])
  | children => notOneExpression (described children)

end Lowering

end JavaSyntax
