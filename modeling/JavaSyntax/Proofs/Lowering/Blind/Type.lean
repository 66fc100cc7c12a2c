import JavaSyntax.Proofs.Lowering.Blind.Basic

/-!
# Blind lowerings of names, types, annotations and variables

The lemmas stand in the order of the lowerings. Where a lowering looks at the tag of a node, both
sides take the same case, as a tag does not change without comments.

* `identifier_stripped`, `closingBrackets_stripped`, `withDimensions_stripped`: what is made of a
  node without asking for anything;
* `blind_typeBody`, `blind_annotationValue`, `blind_variableDeclarations`: the lowerings.

Annotation values take more than that. A value can be a pair, whose own value is looked for among all
parts of the pair, so the lemma on a pair (`strips_namedValue`) and the one on values
(`blind_annotationValue`) are by induction on the raw tree, and not only by cases on its tag.
-/

namespace JavaSyntax

namespace Lowering

variable (source : String)

/-! ## What is made without asking -/

/-- A name is one token. -/
@[simp] theorem identifier_stripped (raw : RawNode) :
    identifier source raw.stripped = identifier source raw := by
  rw [identifier, RawNode.token_stripped, identifier]

/-- The same as an equation of functions, for a name that may be absent. -/
@[simp] theorem identifier_comp_stripped :
    identifier source ∘ RawNode.stripped = identifier source :=
  funext (identifier_stripped source)

/-- A selection reaches to the end of its name, which is where it was. -/
@[simp] theorem select_stripped (scope : Expression) (name : RawNode) :
    select source scope name.stripped = select source scope name := by
  rw [select, RawNode.span_stripped, identifier_stripped, select]

/-- A level of an array type reaches to the end of its bracket. -/
@[simp] theorem arrayOf_stripped (element : Expression) (closing : RawNode) :
    arrayOf element closing.stripped = arrayOf element closing := by
  rw [arrayOf, RawNode.span_stripped, arrayOf]

/-- A comment between two brackets is not a token of the list of brackets. -/
@[simp] theorem closingBrackets_stripped (dimensions : RawNode) :
    closingBrackets dimensions.stripped = (closingBrackets dimensions).map RawNode.stripped := by
  rw [closingBrackets, RawNode.tokens_stripped]
  exact RawNode.filter_map_stripped (fun token => by rw [RawNode.tag_stripped]) _

/-- Levels are put around a type one by one, so the whole is the same when each level is. -/
theorem foldl_arrayOf_stripped (element : Expression) (closings : List RawNode) :
    (closings.map RawNode.stripped).foldl arrayOf element = closings.foldl arrayOf element := by
  rw [List.foldl_map]
  congr 1
  funext inner closing
  exact arrayOf_stripped inner closing

/-- Brackets behind a name, or none. -/
@[simp] theorem withDimensions_stripped (element : Option Expression)
    (dimensions : Option RawNode) :
    withDimensions element (dimensions.map RawNode.stripped) =
      withDimensions element dimensions := by
  cases dimensions with
  | none => rfl
  | some pairs =>
    show element.map _ = element.map _
    congr 1
    funext base
    rw [closingBrackets_stripped, foldl_arrayOf_stripped]

@[simp] theorem isAnnotationUse_stripped (raw : RawNode) :
    isAnnotationUse raw.stripped = isAnnotationUse raw := by
  rw [isAnnotationUse, RawNode.tag_stripped, isAnnotationUse]

/-! ## Names and types -/

/-- A scope is held under a name and the rest is put together from tokens. -/
theorem blind_scopedName : Blind (scopedName source) := by
  intro raw
  unfold scopedName
  refine .bind (strips_field (blind_request .expression) raw "scope") fun scope => ?_
  exact .checked (by simp)

/-- Type arguments are the named children of a list. -/
theorem strips_typeArguments (raw : RawNode) (name : String) :
    (typeArguments (raw.stripped.field? name)).Strips (typeArguments (raw.field? name)) :=
  strips_listedField (blind_request .type) raw name

/-- A bound is the last named child that is no annotation, and what sort of bound it is follows from a
token. -/
theorem blind_wildcard : Blind wildcard := by
  intro raw
  unfold wildcard
  simp only [RawNode.hasToken_stripped, RawNode.childOfTag?_stripped, Option.isSome_map,
    RawNode.namedChildren_stripped]
  rw [RawNode.filter_map_stripped (fun child => by simp), List.getLast?_map]
  refine .bind (.optional (blind_request .type) _) fun bound => ?_
  exact .checked (by simp)

/-- The tag decides which parts are read, and the tag does not change. -/
theorem blind_typeBody : Blind (typeBody source) := by
  intro raw
  unfold typeBody
  rw [RawNode.tag_stripped]
  split
  case h_7 =>
    -- a dotted type
    rw [RawNode.namedChildren_stripped]
    match raw.namedChildren with
    | [] => exact .unsupported raw
    | [_] => exact .unsupported raw
    | qualifier :: second :: rest =>
      refine .bind (blind_request .type qualifier) fun scope => .pure ?_
      rw [List.getLastD_map, select_stripped]
  case h_8 =>
    -- a type with arguments
    rw [RawNode.namedChildren_stripped, RawNode.find?_map_stripped (fun child => by simp)]
    refine .bind (.optional (blind_request .type) _) fun base => ?_
    refine .bind (strips_listedChild (blind_request .type) raw _) fun arguments => ?_
    exact .checked (by simp)
  case h_9 =>
    -- an array type
    refine .bind (strips_field (blind_request .type) raw "element") fun element => ?_
    rw [RawNode.field?_stripped, withDimensions_stripped]
    cases withDimensions element (raw.field? "dimensions") with
    | some array => exact .pure rfl
    | none => exact .checked (by simp)
  case h_10 =>
    -- a type with annotations
    rw [RawNode.namedChildren_stripped, List.getLast?_map]
    cases raw.namedChildren.getLast? with
    | some inner => exact blind_request .type inner
    | none => exact .unsupported raw
  case h_11 => exact blind_wildcard raw
  case h_12 => exact blind_scopedName source raw
  case h_13 => exact .unsupported raw
  -- types of one token, and names
  all_goals exact .pure (by simp)

/-! ## Modifiers and annotations -/

/-- The definition once unfolded. It is by recursion on the parts, so it does not unfold at an unknown
node. -/
theorem annotationValue_eq (raw : RawNode) :
    annotationValue source raw =
      match raw.tag with
      | "element_value_pair" =>
        match raw.findToken? "=" with
        | none => unsupported raw
        | some operator => do
          let key := (raw.field? "key").map fun name => .identifier (identifier source name)
          let value ← namedValue source raw.parts
          checked (Checked.assignment (.assignment .simple) raw.span key (operator.token source)
            value)
      | "element_value_array_initializer" => nested .annotationValues raw done
      | "annotation" | "marker_annotation" => return .annotationUse (← annotationUse raw)
      | _ => expression raw := by
  obtain ⟨label, parts⟩ := raw
  rw [annotationValue]
  rfl

/-- A comment is held under no name, so it is not the value of a pair. -/
theorem strips_namedValue (parts : List RawNode)
    (h : ∀ p ∈ parts, (annotationValue source p.stripped).Strips (annotationValue source p)) :
    (namedValue source (RawNode.strippedIn parts)).Strips (namedValue source parts) := by
  induction parts with
  | nil => exact .pure rfl
  | cons part rest ih =>
    rw [List.forall_mem_cons] at h
    rw [RawNode.strippedIn, namedValue]
    by_cases held : (part.label.field == some "value") = true
    · rw [part.isComment_of_field held, if_neg Bool.false_ne_true, if_pos held, namedValue,
        RawNode.labelField_stripped, if_pos held]
      exact h.1.map rfl
    · rw [if_neg held]
      split
      · exact ih h.2
      · rw [namedValue, RawNode.labelField_stripped, if_neg held]
        exact ih h.2

/-- All values that an annotation can have. The induction gives the values of a pair. -/
theorem blind_annotationValue : Blind (annotationValue source) := by
  intro raw
  induction raw using RawNode.inductionOnParts with
  | node raw ih =>
    rw [annotationValue_eq, annotationValue_eq, RawNode.tag_stripped]
    split
    · -- a pair
      rw [RawNode.findToken?_stripped]
      cases raw.findToken? "=" with
      | none => exact .unsupported raw
      | some operator =>
        have parts : raw.stripped.parts = RawNode.strippedIn raw.parts := by
          rw [RawNode.parts_stripped, RawNode.strippedIn_eq]
        show Strips (do
          let value ← namedValue source raw.stripped.parts
          checked _) _
        rw [parts]
        refine .bind (strips_namedValue source raw.parts ih) fun value => ?_
        exact .checked (by simp [Function.comp_def])
    · exact blind_request .annotationValues raw
    · exact (blind_request .annotationUse raw).map rfl
    · exact (blind_request .annotationUse raw).map rfl
    · exact blind_request .expression raw

/-- The values in braces. -/
theorem blind_annotationValuesBody : Blind (annotationValuesBody source) := by
  intro raw
  unfold annotationValuesBody
  refine .bind (strips_eachNamed (blind_annotationValue source) raw) fun elements => ?_
  exact .checked (by simp)

/-- A name and a list of values. -/
theorem blind_annotationBody : Blind (annotationBody source) := by
  intro raw
  unfold annotationBody
  refine .bind (strips_field (blind_request .expression) raw "name") fun type => ?_
  refine .bind (strips_listedField (blind_annotationValue source) raw "arguments")
    fun arguments => ?_
  exact .checked (by simp)

/-- Keywords and annotations are taken from one list, the keywords among its tokens. -/
theorem blind_modifiersOf : Blind (modifiersOf source) := by
  intro raw
  unfold modifiersOf
  rw [RawNode.childOfTag?_stripped]
  cases raw.childOfTag? "modifiers" with
  | none => exact .pure rfl
  | some list =>
    have keywords : list.stripped.tokens.map (RawNode.token source) =
        list.tokens.map (RawNode.token source) := by
      rw [RawNode.tokens_stripped, List.map_map]
      exact congrArg (List.map · list.tokens) (funext fun token => token.token_stripped source)
    show Strips (do
      let annotations ← each annotationUse (list.stripped.namedChildren.filter isAnnotationUse)
      return some (Modifiers.mk list.stripped.span _ annotations)) _
    rw [RawNode.namedChildren_stripped, RawNode.filter_map_stripped isAnnotationUse_stripped,
      keywords, RawNode.span_stripped]
    exact (Strips.each (blind_request .annotationUse) _).map rfl

/-! ## Variables and parameters -/

/-- A value, or braces with values in them. -/
theorem blind_initializer : Blind initializer := by
  intro raw
  unfold initializer
  rw [RawNode.tag_stripped]
  split
  · exact blind_request .arrayElements raw
  · exact blind_request .expression raw

/-- The values in braces, which may be braces again. -/
theorem blind_arrayElementsBody : Blind arrayElementsBody := by
  intro raw
  unfold arrayElementsBody
  refine .bind (strips_eachNamed blind_initializer raw) fun elements => ?_
  exact .checked (by simp)

/-- One variable of a declaration. Its type and its modifiers come from outside the declarator. -/
theorem blind_declarator (span : Span) (modifiers : Option Modifiers) (type : Option Expression) :
    Blind (declarator source span modifiers type) := by
  intro raw
  unfold declarator
  refine .bind (strips_field blind_initializer raw "value") fun value => ?_
  exact .checked (by simp)

/-- All variables of a declaration. -/
theorem blind_variableDeclarations : Blind (variableDeclarations source) := by
  intro raw
  unfold variableDeclarations
  rw [RawNode.span_stripped]
  refine .bind (blind_modifiersOf source raw) fun modifiers => ?_
  refine .bind (strips_field (blind_request .type) raw "type") fun type => ?_
  exact strips_eachField (blind_declarator source raw.span modifiers type) raw "declarator"

/-- Where the value of a variable stands differs from place to place, so it is a parameter here. -/
theorem strips_declaredVariable (raw : RawNode) (value : Option RawNode) :
    (declaredVariable source raw.stripped (value.map RawNode.stripped)).Strips
      (declaredVariable source raw value) := by
  unfold declaredVariable
  refine .bind (blind_modifiersOf source raw) fun modifiers => ?_
  refine .bind (strips_field (blind_request .type) raw "type") fun declared => ?_
  refine .bind (.optional (blind_request .expression) value) fun lowered => ?_
  refine .checked ?_
  -- the first and the last of the parts that make up the extent are found as they were
  simp [← Option.map_or, Function.comp_def]

/-- The name stands in a declarator of its own, and the dots are one more level of the type. -/
theorem blind_spreadParameter : Blind (spreadParameter source) := by
  intro raw
  unfold spreadParameter
  refine .bind (blind_modifiersOf source raw) fun modifiers => ?_
  rw [RawNode.namedChildren_stripped, RawNode.find?_map_stripped (fun child => by simp),
    RawNode.childOfTag?_stripped]
  refine .bind (.optional (blind_request .type) _) fun element => ?_
  have declared (name : String) :
      ((raw.childOfTag? "variable_declarator").map RawNode.stripped).bind
          (fun found => found.field? name) =
        ((raw.childOfTag? "variable_declarator").bind fun found => found.field? name).map
          RawNode.stripped := by
    cases raw.childOfTag? "variable_declarator" with
    | none => rfl
    | some found => exact found.field?_stripped name
  dsimp only
  rw [declared "value", declared "dimensions", declared "name", RawNode.findToken?_stripped]
  refine .bind (.optional blind_initializer _) fun value => ?_
  rw [withDimensions_stripped, Option.map_map, identifier_comp_stripped, RawNode.span_stripped]
  refine .checked ?_
  cases element <;> cases raw.findToken? "..." <;>
    simp only [Option.map_none, Option.map_some, arrayOf_stripped]

/-- A parameter has no value. -/
theorem blind_parameter : Blind (parameter source) := by
  intro raw
  unfold parameter
  rw [RawNode.tag_stripped]
  split
  · exact strips_declaredVariable source raw none
  · exact blind_spreadParameter source raw
  · exact .unsupported raw

/-- The parameters of a list. -/
theorem strips_parameters (raw : RawNode) (name : String) :
    (parameters source (raw.stripped.field? name)).Strips
      (parameters source (raw.field? name)) :=
  strips_listedField (blind_parameter source) raw name

end Lowering

end JavaSyntax
