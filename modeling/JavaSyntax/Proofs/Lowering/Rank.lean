import JavaSyntax.Proofs.Lowering.Agreement
import JavaSyntax.Proofs.Lowering.Forms.Statement
import Mathlib.Data.List.Induction

/-!
# Rank — brackets are counted wherever they are written

A pair of brackets may follow a type, the name of a variable or the parameters of a method; the dots of
a variable-arity parameter count as one pair, and the creation of an array has pairs with sizes and pairs
without. The rank of a type is the number of array types around what is none.

* `Layered`: a base and one array type around it for each closing token;
* `BracketPairs`: pairs of brackets, with annotations between them, and their closing brackets;
* `Wrapped`: what a type becomes by the tokens that follow it;
* `rank_of_brackets`: every place that takes brackets wraps a type by them, one by one, but for the
  parameter of a `catch`, which drops them (`caughtArray_flattened`).

The base is given as an answer, and the other parts only have to be lowered to something
(`Lowering.Lowers`). So each place is stated with its own hypotheses and is not part of an induction over
the tree; and what a base is lowered to can itself be an array type by brackets of its own, as in
`T[] a[]`.
-/

namespace JavaSyntax

/-- The number of array types around a type that is none. -/
def Expression.rank : Expression → Nat
  | .arrayType _ element => element.rank + 1
  | _ => 0

namespace Lowering

variable {source : String} {below : Answers} {raw : RawNode} {base : Expression}
  {closings : List RawNode} {type : Expression}

/-! ## Layers -/

/-- A base with one array type around it for each closing token: each reaches from the start of the base
to the end of its token. -/
inductive Layered (base : Expression) : List RawNode → Expression → Prop where
  | base : Layered base [] base
  | layer {closings closing inner} (below : Layered base closings inner) :
      Layered base (closings ++ [closing]) (.arrayType (base.span.through closing.span) inner)

/-- There is one layer for each closing token. -/
theorem Layered.rank_eq (h : Layered base closings type) :
    type.rank = base.rank + closings.length := by
  induction h with
  | base => rfl
  | layer _ ih =>
    rw [Expression.rank, ih, List.length_append]
    rfl

/-- Layers do not move the start. -/
theorem Layered.through_eq (h : Layered base closings type) (span : Span) :
    type.span.through span = base.span.through span := by
  cases h <;> rfl

/-- Layers are put around a base from the inside out, so the induction takes the last token off first.
-/
theorem layered_foldl (base : Expression) (closings : List RawNode) :
    Layered base closings (closings.foldl arrayOf base) := by
  induction closings using List.reverseRecOn with
  | nil => exact .base
  | append_singleton closings closing ih =>
    rw [List.foldl_append, List.foldl_cons, List.foldl_nil, arrayOf, ih.through_eq]
    exact .layer ih

variable (base closings type) in
/-- Whether a type is a base with the array types that closing tokens add. -/
structure Wrapped : Prop where
  layers : Layered base closings type
  rank : type.rank = base.rank + closings.length

/-- Wrapping by closing tokens is what `Wrapped` describes. -/
theorem wrapped_foldl (base : Expression) (closings : List RawNode) :
    Wrapped base closings (closings.foldl arrayOf base) :=
  ⟨layered_foldl base closings, (layered_foldl base closings).rank_eq⟩

/-! ## Pairs of brackets -/

/-- Nodes that are pairs of brackets, with annotations before any of them, and the brackets that close
the pairs. -/
inductive BracketPairs : List RawNode → List RawNode → Prop where
  | nil : BracketPairs [] []
  | annotation {note rest closings} (named : note.isNamed) (pairs : BracketPairs rest closings) :
      BracketPairs (note :: rest) closings
  | pair {opening closing rest closings} (opens : opening.isNamed = false ∧ opening.tag = "[")
      (closes : closing.isNamed = false ∧ closing.tag = "]") (pairs : BracketPairs rest closings) :
      BracketPairs (opening :: closing :: rest) (closing :: closings)

/-- Whether what may stand after a type or a name are pairs of brackets that close with the given ones;
nothing are no pairs. -/
def Bracketed (dimensions : Option RawNode) (closings : List RawNode) : Prop :=
  BracketPairs ((dimensions.map RawNode.children).getD []) closings

/-- The closing brackets are found among the tokens, so annotations between the pairs do not count. -/
theorem BracketPairs.closing_eq {children : List RawNode} (h : BracketPairs children closings) :
    (children.filter fun child => !child.isNamed).filter (fun token => token.tag == "]") =
      closings := by
  induction h with
  | nil => rfl
  | annotation named _ ih => simp [named, ih]
  | pair opens closes _ ih => simp [opens, closes, ih]

/-- The lowering sees exactly the closing brackets of the pairs. -/
theorem Bracketed.brackets_eq {dimensions : Option RawNode} (h : Bracketed dimensions closings) :
    brackets dimensions = closings := by
  cases dimensions with
  | none => exact h.closing_eq
  | some pairs => exact h.closing_eq

/-! ## Types and variables -/

/-- Whether a part is there and is lowered to a type. -/
def HasType (below : Answers) (part : Option RawNode) (type : Expression) : Prop :=
  ∃ node, part = some node ∧ below .type node = .ok type

/-- A part with a type gives this type. -/
theorem HasType.rel {part : Option RawNode} (h : HasType below part base) :
    Option.Rel (Gives below typeExpression) part (some base) := by
  obtain ⟨node, rfl, lowered⟩ := h
  exact .some (run_request.trans lowered)

variable (source) in
/-- The brackets of an array type. -/
theorem arrayType_wrapped (tag : raw.tag = "array_type")
    (pairs : Bracketed (raw.field? "dimensions") closings)
    (typed : HasType below (raw.field? "element") base) :
    ∃ type, (typeBody source raw).run below = .ok type ∧ Wrapped base closings type := by
  refine ⟨_, ?_, wrapped_foldl base closings⟩
  simp only [typeBody, tag, run_bind_eq_ok, run_optional_eq_ok, withDimensions_eq_map]
  refine ⟨_, typed.rel, ?_⟩
  rw [pairs.brackets_eq]
  rfl

variable (source raw) in
/-- The lowerings of a variable that is declared alone, with its value. -/
inductive DeclaredAlone : Option RawNode → Lowering VariableDeclaration → Prop where
  | parameter (tag : raw.tag = "formal_parameter") : DeclaredAlone none (parameter source raw)
  | loopVariable : DeclaredAlone none (declaredVariable source raw none)
  | resource : DeclaredAlone (raw.field? "value") (resource source raw)

/-- The three lowerings are one, as soon as there is a type. -/
theorem DeclaredAlone.eq {value : Option RawNode} {made : Lowering VariableDeclaration}
    (h : DeclaredAlone source raw value made) (typed : HasType below (raw.field? "type") base) :
    made = declaredVariable source raw value := by
  obtain ⟨node, found, -⟩ := typed
  cases h with
  | parameter tag => simp only [Lowering.parameter, tag]
  | loopVariable => rfl
  | resource => simp only [Lowering.resource, found, Option.isNone_some, Bool.false_eq_true, if_false]

/-- The brackets after the name of a variable that is declared alone. -/
theorem declaredAlone_wrapped {value : Option RawNode} {made : Lowering VariableDeclaration}
    (alone : DeclaredAlone source raw value made)
    (pairs : Bracketed (raw.field? "dimensions") closings)
    (typed : HasType below (raw.field? "type") base) (named : (raw.field? "name").isSome)
    (modified : Lowers below (modifiersOf source raw))
    (valued : Lowers below (optional expression value)) :
    ∃ v, made.run below = .ok v ∧ Wrapped base closings v.type := by
  obtain ⟨modifiers, listed⟩ := modified
  obtain ⟨init, given⟩ := valued
  obtain ⟨name, found⟩ := Option.isSome_iff_exists.mp named
  rw [alone.eq typed]
  refine ⟨_, run_declaredVariable_eq_ok.mpr ⟨modifiers, base, name, init,
    run_modifiersOf_eq_ok.mp listed, typed.rel, found, run_optional_eq_ok.mp given, rfl⟩, ?_⟩
  rw [pairs.brackets_eq]
  exact wrapped_foldl base closings

/-- What the brackets after the name of one declarator make of the type of the declaration. -/
def DeclaratorWrapped (base : Expression) (d : RawNode) (v : VariableDeclaration) : Prop :=
  ∀ closings, Bracketed (d.field? "dimensions") closings → Wrapped base closings v.type

/-- A declaration makes a variable of each of its declarators as soon as its parts are lowered. -/
theorem exists_declarators {modifiers : Option Modifiers}
    (typed : HasType below (raw.field? "type") base)
    (modified : (modifiersOf source raw).run below = .ok modifiers)
    (declared : ∀ d ∈ raw.fields "declarator", (d.field? "name").isSome ∧
      Lowers below (optional initializer (d.field? "value"))) :
    ∃ vs, (variableDeclarations source raw).run below = .ok vs ∧
      List.Forall₂ (Gives below (declarator source raw.span modifiers (some base)))
        (raw.fields "declarator") vs := by
  have each : ∀ d ∈ raw.fields "declarator", ∃ v,
      Gives below (declarator source raw.span modifiers (some base)) d v := by
    intro d hd
    obtain ⟨named, init, valued⟩ := declared d hd
    obtain ⟨name, found⟩ := Option.isSome_iff_exists.mp named
    exact ⟨_, run_declarator_eq_ok.mpr ⟨base, name, init, rfl, found, run_optional_eq_ok.mp valued,
      rfl⟩⟩
  obtain ⟨vs, made⟩ := exists_forall₂ each
  exact ⟨vs, run_variableDeclarations_eq_ok.mpr ⟨modifiers, some base,
    run_modifiersOf_eq_ok.mp modified, typed.rel, made⟩, made⟩

/-- The brackets after each name of a declaration. -/
theorem declarators_wrapped (typed : HasType below (raw.field? "type") base)
    (modified : Lowers below (modifiersOf source raw))
    (declared : ∀ d ∈ raw.fields "declarator", (d.field? "name").isSome ∧
      Lowers below (optional initializer (d.field? "value"))) :
    ∃ vs, (variableDeclarations source raw).run below = .ok vs ∧
      List.Forall₂ (DeclaratorWrapped base) (raw.fields "declarator") vs := by
  obtain ⟨modifiers, listed⟩ := modified
  obtain ⟨vs, given, made⟩ := exists_declarators typed listed declared
  refine ⟨vs, given, made.imp ?_⟩
  intro d v made closings pairs
  obtain ⟨_, _, _, same, -, -, rfl⟩ := run_declarator_eq_ok.mp made
  obtain rfl := Option.some.inj same
  rw [pairs.brackets_eq]
  exact wrapped_foldl base closings

/-- The dots come first, so they are the innermost layer. -/
theorem spreadParameter_wrapped {dots found : RawNode}
    (ellipsis : raw.findToken? "..." = some dots)
    (declared : raw.childOfTag? "variable_declarator" = some found)
    (pairs : Bracketed (found.field? "dimensions") closings)
    (typed : HasType below (raw.namedChildren.find? fun child =>
      child.tag != "modifiers" && child.tag != "variable_declarator") base)
    (named : (found.field? "name").isSome) (modified : Lowers below (modifiersOf source raw))
    (valued : Lowers below (optional initializer (found.field? "value"))) :
    ∃ v, (spreadParameter source raw).run below = .ok v ∧
      Wrapped base (dots :: closings) v.type := by
  obtain ⟨modifiers, listed⟩ := modified
  obtain ⟨init, given⟩ := valued
  obtain ⟨name, held⟩ := Option.isSome_iff_exists.mp named
  refine ⟨_, run_spreadParameter_eq_ok.mpr ⟨modifiers, base, found, name, init,
    run_modifiersOf_eq_ok.mp listed, typed.rel, declared, held, run_optional_eq_ok.mp given,
    rfl⟩, ?_⟩
  rw [ellipsis, pairs.brackets_eq]
  exact wrapped_foldl base (dots :: closings)

/-- The type of a caught exception is taken as it stands before the name. -/
theorem catchParameter_type (caught : (caughtType raw).run below = .ok (some base))
    (named : (raw.field? "name").isSome) (modified : Lowers below (modifiersOf source raw)) :
    ∃ v, (catchParameter source raw).run below = .ok v ∧ v.type = base := by
  obtain ⟨modifiers, listed⟩ := modified
  obtain ⟨name, found⟩ := Option.isSome_iff_exists.mp named
  refine ⟨⟨raw.span, modifiers, base, identifier source name, none⟩, ?_, rfl⟩
  simp only [catchParameter, run_bind_eq_ok, run_checked_eq_ok, found]
  exact ⟨modifiers, listed, some base, caught, rfl⟩

/-! ## Methods and creations of arrays -/

/-- The brackets after the parameters of a method belong to what it returns. -/
theorem method_wrapped (pairs : Bracketed (raw.field? "dimensions") closings)
    (typed : HasType below (raw.field? "type") base) (named : (raw.field? "name").isSome)
    (modified : Lowers below (modifiersOf source raw))
    (parameterized : Lowers below (typeParameters source (raw.field? "type_parameters")))
    (passed : Lowers below (parameters source (raw.field? "parameters")))
    (thrown : Lowers below (listed typeExpression (raw.childOfTag? "throws")))
    (bodied : Lowers below (optional block (raw.field? "body")))
    (valued : Lowers below (optional (annotationValue source) (raw.field? "value"))) :
    ∃ m type, (method source .method raw).run below = .ok m ∧ m.returnType = some type ∧
      Wrapped base closings type := by
  obtain ⟨modifiers, modified⟩ := modified
  obtain ⟨types, parameterized⟩ := parameterized
  obtain ⟨parameters, passed⟩ := passed
  obtain ⟨throws, thrown⟩ := thrown
  obtain ⟨body, bodied⟩ := bodied
  obtain ⟨value, valued⟩ := valued
  obtain ⟨name, found⟩ := Option.isSome_iff_exists.mp named
  refine ⟨_, _, run_method_eq_ok.mpr ⟨modifiers, types, some base, name, parameters, throws, body,
    value, run_modifiersOf_eq_ok.mp modified, run_typeParameters_eq_ok.mp parameterized, typed.rel,
    found, run_listed_eq_ok.mp passed, run_listed_eq_ok.mp thrown, run_optional_eq_ok.mp bodied,
    run_optional_eq_ok.mp valued, nofun, fun _ => rfl, rfl⟩, rfl, ?_⟩
  rw [pairs.brackets_eq]
  exact wrapped_foldl base closings

/-- What a pair of brackets with a size in it is lowered to. -/
def Measures (below : Answers) (dimension : RawNode) (size : Expression) : Prop :=
  dimension.tag = "dimensions_expr" ∧ ∃ node,
    (dimension.namedChildren.filter fun child => !isAnnotationUse child).getLast? = some node ∧
      below .expression node = .ok size

/-- A pair with a size gives the size. -/
theorem Measures.run {dimension : RawNode} {size : Expression} (h : Measures below dimension size) :
    Gives below arraySize dimension size := by
  obtain ⟨-, node, last, lowered⟩ := h
  simp only [Gives, arraySize, last]
  exact run_request.trans lowered

/-- The parts of a creation with the pairs that have sizes and the pairs that have none. -/
theorem filter_dimensions {sized : List RawNode} {pairs : Option RawNode} {sizes : List Expression}
    (measured : List.Forall₂ (Measures below) sized sizes)
    (unsized : ∀ d ∈ pairs, d.tag ≠ "dimensions_expr") :
    (sized ++ pairs.toList).filter (fun d => d.tag == "dimensions_expr") = sized ∧
      (sized ++ pairs.toList).filter (fun d => !(d.tag == "dimensions_expr")) = pairs.toList := by
  have tagged : ∀ d ∈ sized, d.tag = "dimensions_expr" := by
    intro d hd
    obtain ⟨size, -, h⟩ := exists_of_forall₂ (.flip measured) hd
    exact h.1
  simp only [List.filter_append]
  constructor
  · rw [List.filter_eq_self.mpr fun d hd => beq_iff_eq.mpr (tagged d hd),
      List.filter_eq_nil_iff.mpr, List.append_nil]
    intro d hd
    rw [beq_iff_eq]
    exact unsized d (Option.mem_toList.mp hd)
  · rw [List.filter_eq_nil_iff.mpr, List.filter_eq_self.mpr, List.nil_append]
    · intro d hd
      simpa using unsized d (Option.mem_toList.mp hd)
    · intro d hd
      simpa using tagged d hd

/-- The pairs without sizes come last. If there are no others, the first one is the array itself. -/
theorem arrayCreation_wrapped {sized : List RawNode} {pairs : Option RawNode}
    {sizes : List Expression} (dimensions : raw.fields "dimensions" = sized ++ pairs.toList)
    (measured : List.Forall₂ (Measures below) sized sizes)
    (unsized : ∀ d ∈ pairs, d.tag ≠ "dimensions_expr") (bracketed : Bracketed pairs closings)
    (typed : HasType below (raw.field? "type") base)
    (filled : Lowers below (listed arrayElement (raw.field? "value"))) :
    ∃ type elements,
      (arrayCreation raw).run below = .ok (.newArray raw.span (some type) sizes elements) ∧
      Wrapped base (if sized = [] then closings.tail else closings) type := by
  obtain ⟨elements, given⟩ := filled
  obtain ⟨sizing, empty⟩ := filter_dimensions measured unsized
  refine ⟨_, elements, run_arrayCreation_eq_ok.mpr ⟨some base, sizes, elements, typed.rel, ?_,
    run_listed_eq_ok.mp given, .inl rfl, rfl⟩, ?_⟩
  · rw [dimensions, sizing]
    exact measured.imp fun _ _ => Measures.run
  · have last : pairs.toList.getLast? = pairs := by cases pairs <;> rfl
    have wrapping : creationBrackets raw sizes =
        if sized = [] then closings.tail else closings := by
      simp only [creationBrackets, dimensions, empty, last, bracketed.brackets_eq]
      cases measured <;> simp
    rw [wrapping]
    exact wrapped_foldl base _

end Lowering

open Lowering

/-- **Brackets are counted wherever they are written.** Whatever has pairs of brackets is lowered as soon
as its other parts are, to the lowered base with one array type around it for each pair, from the start
of the base to the closing bracket: an array type; a variable that is declared alone; each variable of a
declaration, by the pairs after its own name; and what a method returns. The dots of a variable-arity
parameter count as one pair before those after its name. In the creation of an array the pairs without a
size wrap the type of the elements, the first one excepted if no pair has a size. Brackets after the name
of a caught exception are the one exception: they are dropped, however many there are. -/
theorem rank_of_brackets (source : String) (limit room : Nat) (raw : RawNode) (base : Expression)
    (closings : List RawNode) :
    let below : Answers := lower source limit room
    (raw.tag = "array_type" → Bracketed (raw.field? "dimensions") closings →
      HasType below (raw.field? "element") base →
      ∃ type, lower source limit (room + 1) .type raw = .ok type ∧
        lower source limit (room + 1) .expression raw = .ok type ∧ Wrapped base closings type) ∧
    (∀ value made, DeclaredAlone source raw value made →
      Bracketed (raw.field? "dimensions") closings → HasType below (raw.field? "type") base →
      (raw.field? "name").isSome → Lowers below (modifiersOf source raw) →
      Lowers below (optional expression value) →
      ∃ v, made.run below = .ok v ∧ Wrapped base closings v.type) ∧
    (HasType below (raw.field? "type") base → Lowers below (modifiersOf source raw) →
      (∀ d ∈ raw.fields "declarator", (d.field? "name").isSome ∧
        Lowers below (optional initializer (d.field? "value"))) →
      ∃ vs, (variableDeclarations source raw).run below = .ok vs ∧
        List.Forall₂ (DeclaratorWrapped base) (raw.fields "declarator") vs) ∧
    (Bracketed (raw.field? "dimensions") closings → HasType below (raw.field? "type") base →
      (raw.field? "name").isSome → Lowers below (modifiersOf source raw) →
      Lowers below (typeParameters source (raw.field? "type_parameters")) →
      Lowers below (parameters source (raw.field? "parameters")) →
      Lowers below (listed typeExpression (raw.childOfTag? "throws")) →
      Lowers below (optional block (raw.field? "body")) →
      Lowers below (optional (annotationValue source) (raw.field? "value")) →
      ∃ m type, (method source .method raw).run below = .ok m ∧ m.returnType = some type ∧
        Wrapped base closings type) ∧
    (∀ dots found, raw.tag = "spread_parameter" → raw.findToken? "..." = some dots →
      raw.childOfTag? "variable_declarator" = some found →
      Bracketed (found.field? "dimensions") closings →
      HasType below (raw.namedChildren.find? fun child =>
        child.tag != "modifiers" && child.tag != "variable_declarator") base →
      (found.field? "name").isSome → Lowers below (modifiersOf source raw) →
      Lowers below (optional initializer (found.field? "value")) →
      ∃ v, (parameter source raw).run below = .ok v ∧ Wrapped base (dots :: closings) v.type) ∧
    (∀ sized pairs sizes, raw.tag = "array_creation_expression" →
      raw.fields "dimensions" = sized ++ pairs.toList → List.Forall₂ (Measures below) sized sizes →
      (∀ d ∈ pairs, d.tag ≠ "dimensions_expr") → Bracketed pairs closings →
      HasType below (raw.field? "type") base →
      Lowers below (listed initializer (raw.field? "value")) →
      ∃ type elements, lower source limit (room + 1) .expression raw =
          .ok (.newArray raw.span (some type) sizes elements) ∧
        Wrapped base (if sized = [] then closings.tail else closings) type) ∧
    ((caughtType raw).run below = .ok (some base) → (raw.field? "name").isSome →
      Lowers below (modifiersOf source raw) →
      ∃ v, (catchParameter source raw).run below = .ok v ∧ v.type = base) := by
  intro below
  refine ⟨?arrayType, ?declaredAlone, ?declarators, ?method, ?spread, ?creation, ?caught⟩
  case arrayType =>
    intro tag pairs typed
    obtain ⟨type, given, wrapped⟩ := arrayType_wrapped source tag pairs typed
    have same : expressionBody source raw = typeBody source raw := by
      simp [expressionBody, literalKind?, compoundBody, typeTags, tag]
    refine ⟨type, given, ?_, wrapped⟩
    rw [lower_succ, body, same]
    exact given
  case declaredAlone => exact fun value made => declaredAlone_wrapped
  case declarators => exact declarators_wrapped
  case method => exact method_wrapped
  case spread =>
    intro dots found tag
    simp only [parameter, tag]
    exact spreadParameter_wrapped
  case creation =>
    intro sized pairs sizes tag dimensions measured unsized bracketed typed filled
    have same : expressionBody source raw = arrayCreation raw := by
      simp [expressionBody, literalKind?, compoundBody, tag]
    have elements : Lowers (lower source limit room) (listed arrayElement (raw.field? "value")) := by
      rwa [Lowers, run_listed_arrayElement]
    rw [lower_succ, body, same]
    exact arrayCreation_wrapped dimensions measured unsized bracketed typed elements
  case caught => exact catchParameter_type

/-! ## Samples -/

open RawNode (onLine)

/-- The type `T[]` in `T[] a[]`. -/
def bracketedType : RawNode :=
  onLine "array_type" true (some "type") 0 3
    [onLine "type_identifier" true (some "element") 0 1 [],
     onLine "dimensions" true (some "dimensions") 1 3
      [onLine "[" false none 1 2 [], onLine "]" false none 2 3 []]]

/-- The parameter `T[] a[]`. -/
def bracketedTwice : RawNode :=
  onLine "formal_parameter" true none 0 7
    [bracketedType,
     onLine "identifier" true (some "name") 4 5 [],
     onLine "dimensions" true (some "dimensions") 5 7
      [onLine "[" false none 5 6 [], onLine "]" false none 6 7 []]]

theorem bracketedTwice_rank : ∃ v : VariableDeclaration,
    (parameter "T[] a[]" bracketedTwice).run (lower "T[] a[]" 64 2) = .ok v ∧ v.type.rank = 2 := by
  obtain ⟨type, lowered, -, inner⟩ :=
    (rank_of_brackets "T[] a[]" 64 1 bracketedType
      (.identifier (identifier "T[] a[]" (onLine "type_identifier" true (some "element") 0 1 [])))
      [onLine "]" false none 2 3 []]).1 rfl (.pair ⟨rfl, rfl⟩ ⟨rfl, rfl⟩ .nil) ⟨_, rfl, rfl⟩
  obtain ⟨v, made, outer⟩ :=
    (rank_of_brackets "T[] a[]" 64 2 bracketedTwice type [onLine "]" false none 6 7 []]).2.1 none _
      (.parameter rfl) (.pair ⟨rfl, rfl⟩ ⟨rfl, rfl⟩ .nil) ⟨_, rfl, lowered⟩ rfl ⟨none, rfl⟩
      ⟨none, rfl⟩
  refine ⟨v, made, ?_⟩
  rw [outer.rank, inner.rank]
  rfl

/-- The exception of `try { } catch (A e[]) { }`. -/
def caughtArray : RawNode :=
  onLine "catch_formal_parameter" true none 15 20
    [onLine "catch_type" true none 15 16 [onLine "type_identifier" true none 15 16 []],
     onLine "identifier" true (some "name") 17 18 [],
     onLine "dimensions" true (some "dimensions") 18 20
      [onLine "[" false none 18 19 [], onLine "]" false none 19 20 []]]

/-- The raw tree of `try { } catch (A e[]) { }`. -/
def arrayCatch : RawNode :=
  onLine "try_statement" true none 0 25
    [onLine "try" false none 0 3 [],
     onLine "block" true (some "body") 4 7
      [onLine "\x7b" false none 4 5 [], onLine "\x7d" false none 6 7 []],
     onLine "catch_clause" true none 8 25
      [onLine "catch" false none 8 13 [],
       onLine "(" false none 14 15 [],
       caughtArray,
       onLine ")" false none 20 21 [],
       onLine "block" true (some "body") 22 25
        [onLine "\x7b" false none 22 23 [], onLine "\x7d" false none 24 25 []]]]

/-- **The brackets after the name of a caught exception are lost.** The name is followed by one pair, and
the variable that the `try` is lowered to has the type before the name, which is no array. -/
theorem caughtArray_flattened :
    ∃ (closing : RawNode) (base : Expression) (v : VariableDeclaration) (block body : Block)
        (span : Span),
      caughtArray ∈ arrayCatch.nodes ∧
      Bracketed (caughtArray.field? "dimensions") [closing] ∧
      (caughtType caughtArray).run (lower "try { } catch (A e[]) { }" 64 63) = .ok (some base) ∧
      lower "try { } catch (A e[]) { }" 64 64 .statement arrayCatch =
        .ok (.tryBlock arrayCatch.span [] block [⟨span, v, body⟩] none) ∧
      v.type.rank ≠ base.rank + [closing].length := by
  let base : Expression :=
    .identifier (identifier "try { } catch (A e[]) { }" (onLine "type_identifier" true none 15 16 []))
  let name := identifier "try { } catch (A e[]) { }" (onLine "identifier" true (some "name") 17 18 [])
  refine ⟨_, base, ⟨caughtArray.span, none, base, name, none⟩, _, _, _, ?_,
    .pair ⟨rfl, rfl⟩ ⟨rfl, rfl⟩ .nil, rfl, rfl, by decide⟩
  simp [arrayCatch, RawNode.onLine, RawNode.nodes, RawNode.nodesIn, caughtArray]

end JavaSyntax
