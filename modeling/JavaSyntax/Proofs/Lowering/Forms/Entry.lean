import JavaSyntax.Proofs.Lowering.Forms.Statement
import JavaSyntax.Proofs.Tree.Children

/-!
# Forms of whole sources

* `UnitPartsForm`, `compilationUnit_form`: what the declarations at the top of a source are lowered to;
* `forall_children_unit`: a unit holds nothing but what its parts contribute;
* `soleExpression_form`: a source that is a single expression statement.

The parts of a unit are collected in one list in source order, and the unit sorts them by what they
contribute (`unitOf`). So the forms speak of the list, and what is said of every part holds of every
child of the unit. Of several package declarations all contribute annotations and names, but the unit
keeps the last name only.
-/

namespace JavaSyntax

namespace Lowering

variable {source : String} {below : Answers} {raw : RawNode}

/-! ## Whole sources -/

variable (source below) in
/-- What the name of an import is lowered to: with an asterisk, it selects from the package. -/
inductive ImportedForm (raw : RawNode) : Expression → Prop where
  /-- An import of one name, or one whose asterisk has no package. -/
  | plain {name}
      (given : Option.Rel (Gives below expression)
        (raw.namedChildren.find? fun child => child.tag != "asterisk") (some name)) :
      ImportedForm raw name
  /-- An import of all that a package holds. -/
  | onDemand {package asterisk}
      (given : Option.Rel (Gives below expression)
        (raw.namedChildren.find? fun child => child.tag != "asterisk") (some package))
      (found : raw.childOfTag? "asterisk" = some asterisk) :
      ImportedForm raw (select source package asterisk)

/-- An import, with `static` if the keyword stands in it. -/
theorem importDeclaration_form {i : Import} (h : (importDeclaration source raw).run below = .ok i) :
    ∃ name, ImportedForm source below raw name ∧ i = ⟨raw.span, raw.hasToken "static", name⟩ := by
  unfold importDeclaration at h
  simp only [run_bind_eq_ok, run_optional_eq_ok, run_checked_eq_ok,
    Checked.importDeclaration_eq_ok] at h
  obtain ⟨found, given, name, imported, rfl⟩ := h
  refine ⟨name, ?_, rfl⟩
  split at imported
  case h_1 package asterisk star =>
    rw [Option.some.injEq] at imported
    exact imported ▸ .onDemand given star
  case h_2 => exact .plain (imported ▸ given)

variable (below) in
/-- What a part of a package declaration is lowered to. -/
inductive PackagePartForm (raw : RawNode) : UnitPart → Prop where
  | annotationUse {use} (isUse : isAnnotationUse raw) (given : Gives below annotationUse raw use) :
      PackagePartForm raw (.packageAnnotationUse use)
  | name {e} (notUse : ¬ isAnnotationUse raw) (given : Gives below expression raw e) :
      PackagePartForm raw (.packageName e)

/-- The parts of a package declaration are annotations, and the name. -/
theorem packagePart_form {part : UnitPart} (h : (packagePart raw).run below = .ok part) :
    PackagePartForm below raw part := by
  unfold packagePart at h
  split at h
  case isTrue isUse =>
    simp only [run_bind_eq_ok, run_pure_eq_ok] at h
    obtain ⟨use, given, rfl⟩ := h
    exact .annotationUse isUse given
  case isFalse notUse =>
    simp only [run_bind_eq_ok, run_pure_eq_ok] at h
    obtain ⟨e, given, rfl⟩ := h
    exact .name notUse given

variable (source below raw) in
/-- What a declaration at the top of a source is lowered to. -/
inductive UnitPartsForm : List UnitPart → Prop where
  /-- A package declaration contributes several parts. -/
  | package {parts} (tag : raw.tag = "package_declaration")
      (given : List.Forall₂ (Gives below packagePart) raw.namedChildren parts) : UnitPartsForm parts
  | importDeclaration {i} (tag : raw.tag = "import_declaration")
      (given : Gives below (importDeclaration source) raw i) : UnitPartsForm [.importDeclaration i]
  | type {declaration} (isType : isTypeDeclaration raw)
      (given : Gives below typeDeclaration raw declaration) :
      UnitPartsForm [.typeDeclaration declaration]

/-- The tag tells what a declaration at the top of a source is; all else is refused there. -/
theorem unitParts_form {parts : List UnitPart} (h : (unitParts source raw).run below = .ok parts) :
    UnitPartsForm source below raw parts := by
  unfold unitParts at h
  split at h
  case h_1 tag =>
    rw [run_each_eq_ok] at h
    exact .package tag h
  case h_2 tag =>
    simp only [run_bind_eq_ok, run_pure_eq_ok] at h
    obtain ⟨i, given, rfl⟩ := h
    exact .importDeclaration tag given
  case h_3 =>
    split at h
    case isTrue isType =>
      simp only [run_bind_eq_ok, run_pure_eq_ok] at h
      obtain ⟨declaration, given, rfl⟩ := h
      exact .type isType given
    case isFalse => exact absurd h run_unsupported_eq_ok.mp

namespace UnitPart

variable {part : UnitPart}

/-- Reading a part back: only an annotation of the package gives one. The other three are alike. -/
theorem packageAnnotationUse?_eq_some {use : AnnotationUse} :
    part.packageAnnotationUse? = some use ↔ part = .packageAnnotationUse use := by
  cases part <;> simp [packageAnnotationUse?]

theorem packageName?_eq_some {name : Expression} :
    part.packageName? = some name ↔ part = .packageName name := by
  cases part <;> simp [packageName?]

theorem import?_eq_some {i : Import} :
    part.import? = some i ↔ part = .importDeclaration i := by
  cases part <;> simp [import?]

theorem type?_eq_some {d : TypeDeclaration} :
    part.type? = some d ↔ part = .typeDeclaration d := by
  cases part <;> simp [type?]

end UnitPart

/-- The node that a part contributes. -/
def UnitPart.node : UnitPart → Node
  | packageAnnotationUse use => .annotationUse use
  | packageName name => name.node
  | importDeclaration declaration => .importDeclaration declaration
  | typeDeclaration declaration => .typeDeclaration declaration

/-- The unit that parts make up. -/
def unitOf (span : Span) (parts : List UnitPart) : CompilationUnit :=
  ⟨span, parts.filterMap UnitPart.packageAnnotationUse?,
    (parts.filterMap UnitPart.packageName?).getLast?, parts.filterMap UnitPart.import?,
    parts.filterMap UnitPart.type?⟩

/-- A statement about the parts is one about the children, since every child is contributed by a part.
-/
theorem forall_children_unit {P : Node → Prop} {span : Span} {parts : List UnitPart}
    (h : ∀ part ∈ parts, P part.node) : ∀ c ∈ (Node.compilationUnit (unitOf span parts)).children, P c := by
  -- what is read of the parts in one of the four ways comes from parts that contribute it
  have contributed {α : Type} {node : α → Node} {read : UnitPart → Option α}
      (known : ∀ part a, read part = some a → part.node = node a) :
      ∀ a ∈ parts.filterMap read, P (node a) := by
    intro a ha
    obtain ⟨part, hp, found⟩ := List.mem_filterMap.mp ha
    exact known part a found ▸ h part hp
  refine Node.forall_children_compilationUnit.mpr ⟨?_, ?_, ?_, ?_⟩
  · exact contributed fun _ _ found => UnitPart.packageAnnotationUse?_eq_some.mp found ▸ rfl
  -- the name is the last one that is contributed
  · exact fun e found => contributed (fun _ _ found => UnitPart.packageName?_eq_some.mp found ▸ rfl) e
      (List.mem_of_getLast? found)
  · exact contributed fun _ _ found => UnitPart.import?_eq_some.mp found ▸ rfl
  · exact contributed fun _ _ found => UnitPart.type?_eq_some.mp found ▸ rfl

/-- A unit is made of the parts of all declarations in the source. -/
theorem compilationUnit_form {unit : CompilationUnit}
    (h : (compilationUnit source raw).run below = .ok unit) :
    ∃ groups, List.Forall₂ (Gives below (unitParts source)) raw.namedChildren groups ∧
      unit = unitOf raw.span groups.flatten := by
  unfold compilationUnit at h
  simp only [run_bind_eq_ok, run_gather_eq_ok, run_checked_eq_ok, Checked.compilationUnit_eq_ok] at h
  obtain ⟨_, ⟨groups, given, rfl⟩, -, rfl⟩ := h
  exact ⟨groups, given, rfl⟩

/-- A source that is one expression statement and nothing else that is named. The expression is the first
named child of the statement. -/
theorem soleExpression_form {e : Expression} (h : (soleExpression raw).run below = .ok e) :
    ∃ only inner, raw.namedChildren = [only] ∧ only.tag = "expression_statement" ∧
      only.namedChildren.head? = some inner ∧ Gives below expression inner e := by
  unfold soleExpression at h
  split at h
  -- all other sources are refused with the number of their constructs
  case h_1 only alone =>
    split at h
    case isTrue tag =>
      split at h
      case h_1 inner rest named =>
        exact ⟨only, inner, alone, eq_of_beq tag, by rw [named, List.head?_cons], h⟩
      case h_2 => exact absurd h nofun
    case isFalse => exact absurd h nofun
  case h_2 => exact absurd h nofun

/-- The expression of a source is that of a node inside it. -/
theorem soleExpression_inner {e : Expression} (h : (soleExpression raw).run below = .ok e) :
    ∃ inner ∈ raw.nodes, Gives below expression inner e := by
  obtain ⟨only, inner, alone, -, head, given⟩ := soleExpression_form h
  have found := raw.namedChildren_subset_nodes (alone ▸ List.mem_cons_self)
  exact ⟨inner, RawNode.inner_of_namedChildren found (List.mem_of_head? head), given⟩

end Lowering

end JavaSyntax
