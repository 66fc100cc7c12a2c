import JavaSyntax.Lowering.Entry
import JavaSyntax.Proofs.Lowering.Gives
import JavaSyntax.Proofs.Raw.Nodes
import JavaSyntax.Proofs.Tree.Checked

/-!
# Forms of types — what the lowering of a type gives

For each lowering of `JavaSyntax.Lowering`, the modules `JavaSyntax.Proofs.Lowering.Forms` say which
results it can give, in terms of what its parts are lowered to. A lowering with several outcomes has a
relation with one case for each, such as `TypeForm`; a lowering with one has a lemma `…_form`. Every
property of built trees is proved from these, case by case, and no such proof looks into a lowering.
-/

namespace JavaSyntax

namespace Lowering

variable {source : String} {below : Answers} {raw : RawNode}

/-! ## Brackets -/

/-- The closing brackets of a list of `[]` pairs that may be absent. -/
def brackets (dimensions : Option RawNode) : List RawNode :=
  (dimensions.map closingBrackets).getD []

/-- An absent type stays absent, a type that is there is wrapped once for each closing bracket. -/
theorem withDimensions_eq_map (element : Option Expression) (dimensions : Option RawNode) :
    withDimensions element dimensions =
      element.map fun base => (brackets dimensions).foldl arrayOf base := by
  cases dimensions with
  | none => cases element <;> rfl
  | some pairs => rfl

/-! ## Types -/

variable (source below raw) in
/-- What a type is lowered to. -/
inductive TypeForm : Expression → Prop where
  | primitive : TypeForm (.primitiveType (raw.token source))
  | name : TypeForm (.identifier (identifier source raw))
  /-- A dotted type. Annotations may stand between the names, so that the name is the last child. -/
  | scopedType {qualifier second scope rest} (tag : raw.tag = "scoped_type_identifier")
      (named : raw.namedChildren = qualifier :: second :: rest)
      (given : Gives below typeExpression qualifier scope) :
      TypeForm (select source scope (rest.getLastD second))
  /-- The base is the first child that is no list of arguments. -/
  | generic {base arguments} (tag : raw.tag = "generic_type")
      (given : Option.Rel (Gives below typeExpression)
        (raw.namedChildren.find? fun child => child.tag != "type_arguments") (some base))
      (types : List.Forall₂ (Gives below typeExpression)
        (items (raw.childOfTag? "type_arguments")) arguments) :
      TypeForm (.parameterizedType raw.span base arguments)
  /-- One layer for each closing bracket around the element type. -/
  | array {element} (tag : raw.tag = "array_type")
      (given : Option.Rel (Gives below typeExpression) (raw.field? "element") (some element)) :
      TypeForm ((brackets (raw.field? "dimensions")).foldl arrayOf element)
  /-- The type without its annotations, which are dropped. -/
  | annotated {inner type} (tag : raw.tag = "annotated_type")
      (last : raw.namedChildren.getLast? = some inner) (given : Gives below typeExpression inner type) :
      TypeForm type
  /-- The bound is the last child that is neither the keyword nor an annotation, and the kind agrees
  with it. -/
  | wildcard {kind bound} (tag : raw.tag = "wildcard")
      (given : Option.Rel (Gives below typeExpression)
        (raw.namedChildren.filter fun child =>
          child.tag != "super" && !isAnnotationUse child).getLast? bound)
      (bounded : bound = none ↔ kind = .unbounded) :
      TypeForm (.wildcard kind raw.span bound)
  /-- A qualified name, which is no type by its tag but stands in the place of one. -/
  | scopedName {scope name} (tag : raw.tag = "scoped_identifier")
      (given : Option.Rel (Gives below expression) (raw.field? "scope") (some scope))
      (named : raw.field? "name" = some name) :
      TypeForm (.memberSelect raw.span scope (identifier source name))

/-- A qualified name is a selection whose scope is an expression, in whatever place it stands. -/
theorem scopedName_form {e : Expression} (tag : raw.tag = "scoped_identifier")
    (h : (scopedName source raw).run below = .ok e) : TypeForm source below raw e := by
  unfold scopedName at h
  simp only [run_bind_eq_ok, run_optional_eq_ok, run_checked_eq_ok, Checked.memberSelect_eq_ok,
    Option.map_eq_some_iff] at h
  obtain ⟨_, given, scope, rfl, _, ⟨name, named, rfl⟩, rfl⟩ := h
  exact .scopedName tag given named

/-- A wildcard, with its bound asked for as a type. -/
theorem wildcard_form {e : Expression} (tag : raw.tag = "wildcard")
    (h : (wildcard raw).run below = .ok e) : TypeForm source below raw e := by
  unfold wildcard at h
  simp only [run_bind_eq_ok, run_optional_eq_ok, run_checked_eq_ok, Checked.wildcard_eq_ok,
    Kind.wildcard.injEq] at h
  obtain ⟨bound, given, kind, -, bounded, rfl⟩ := h
  exact .wildcard tag given bounded

/-- **What a type is lowered to.** The tag decides, and what has no tag of a type is refused. -/
theorem typeBody_form {e : Expression} (h : (typeBody source raw).run below = .ok e) :
    TypeForm source below raw e := by
  unfold typeBody at h
  split at h
  case h_7 tag =>
    -- a dotted type: what is before the first dot is lowered, the last name is selected
    split at h
    case h_1 qualifier second rest named =>
      simp only [run_bind_eq_ok, run_pure_eq_ok] at h
      obtain ⟨scope, given, rfl⟩ := h
      exact .scopedType tag named given
    case h_2 => exact absurd h run_unsupported_eq_ok.mp
  case h_8 tag =>
    -- a type with arguments
    simp only [run_bind_eq_ok, run_optional_eq_ok, run_checked_eq_ok, typeArguments,
      run_listed_eq_ok, Checked.parameterizedType_eq_ok] at h
    obtain ⟨_, given, arguments, types, base, rfl, rfl⟩ := h
    exact .generic tag given types
  case h_9 tag =>
    -- an array type
    simp only [run_bind_eq_ok, run_optional_eq_ok, withDimensions_eq_map] at h
    obtain ⟨element, given, h⟩ := h
    cases element with
    | none => simp [Checked.arrayType_eq_ok] at h
    | some element =>
      simp only [Option.map_some, run_pure_eq_ok] at h
      exact h ▸ .array tag given
  case h_10 tag =>
    -- a type with annotations: the type alone is lowered
    split at h
    case h_1 inner last => exact .annotated tag last h
    case h_2 => exact absurd h run_unsupported_eq_ok.mp
  case h_11 tag => exact wildcard_form tag h
  case h_12 tag => exact scopedName_form tag h
  case h_13 => exact absurd h run_unsupported_eq_ok.mp
  case h_5 | h_6 =>
    rw [run_pure_eq_ok] at h
    exact h ▸ .name
  -- types of one token
  all_goals
    rw [run_pure_eq_ok] at h
    exact h ▸ .primitive

end Lowering

end JavaSyntax
