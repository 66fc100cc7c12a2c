import JavaSyntax.Lowering.Entry
import JavaSyntax.Proofs.Lowering.Blind.Expression

/-!
# Blind lowerings of declarations, statements and whole sources

A type body and a list of statements read all children of a node, tokens included, and the groups of
a switch are taken one after the other. In each, comments are left out before anything is counted.

* `bodyEntries_stripped`: what stands in a type body;
* `blind_members`, `blind_statementList`, `strips_caseGroups`: the lists;
* `blind_body`: all constructs;
* `blind_compilationUnit`, `blind_soleExpression`: whole sources.

Errors are another matter. One that is kept as a child is not left out on either side, so a lowering that
refuses it does so with or without comments, and at the same position.
-/

namespace JavaSyntax

namespace Lowering

variable (source : String)

/-! ## Headers of types -/

/-- A type declaration is told by its tag. -/
@[simp] theorem isTypeDeclaration_stripped (raw : RawNode) :
    isTypeDeclaration raw.stripped = isTypeDeclaration raw := by
  rw [isTypeDeclaration, RawNode.tag_stripped, isTypeDeclaration]

/-- A name and the bounds in a list of their own. -/
theorem blind_typeParameter : Blind (typeParameter source) := by
  intro raw
  unfold typeParameter
  refine .bind (strips_listedChild (blind_request .type) raw "type_bound") fun bounds => ?_
  exact .checked (by simp)

/-- Only the children of the right tag are read from the list. -/
theorem strips_typeParameters (raw : RawNode) (name : String) :
    (typeParameters source (raw.stripped.field? name)).Strips
      (typeParameters source (raw.field? name)) := by
  rw [RawNode.field?_stripped]
  cases raw.field? name with
  | none => exact .pure rfl
  | some found =>
    show (each (typeParameter source) (found.stripped.childrenOfTag "type_parameter")).Strips _
    rw [RawNode.childrenOfTag_stripped]
    exact .each (blind_typeParameter source) _

/-! ## Members -/

/-- Seven parts, looked up one by one, and the order of the lookups is the order of the checks. -/
theorem blind_method (kind : CallableKind) : Blind (method source kind) := by
  intro raw
  unfold method
  refine .bind (blind_modifiersOf source raw) fun modifiers => ?_
  refine .bind (strips_typeParameters source raw "type_parameters") fun types => ?_
  refine .bind (strips_field (blind_request .type) raw "type") fun declared => ?_
  refine .bind (strips_parameters source raw "parameters") fun parameters => ?_
  refine .bind (strips_listedChild (blind_request .type) raw "throws") fun throws => ?_
  refine .bind (strips_field blind_block raw "body") fun body => ?_
  refine .bind (strips_field (blind_annotationValue source) raw "value") fun value => ?_
  exact .checked (by simp)

/-- Arguments and a body, both of which can be absent. -/
theorem blind_enumConstant : Blind (enumConstant source) := by
  intro raw
  unfold enumConstant
  refine .bind (blind_modifiersOf source raw) fun modifiers => ?_
  refine .bind (strips_arguments raw "arguments") fun values => ?_
  refine .bind (strips_field (blind_request .anonymousClass) raw "body") fun body => ?_
  exact .checked (by simp)

/-- The block is found by its tag. -/
theorem blind_staticInitializer : Blind staticInitializer := by
  intro raw
  unfold staticInitializer
  rw [RawNode.span_stripped]
  exact (strips_childOfTag (blind_request .statements) raw "block").map rfl

/-- The tag decides what sort of member it is. A block is asked for as a list of statements. -/
theorem blind_member : Blind (member source) := by
  intro raw
  unfold member
  rw [RawNode.tag_stripped]
  split
  · exact (blind_variableDeclarations source raw).map rfl
  · exact (blind_variableDeclarations source raw).map rfl
  · exact (blind_method source .method raw).map rfl
  · exact (blind_method source .method raw).map rfl
  · exact (blind_method source .constructor raw).map rfl
  · exact (blind_enumConstant source raw).map rfl
  · rw [RawNode.span_stripped]
    exact (blind_request .statements raw).map rfl
  · exact (blind_staticInitializer raw).map rfl
  · rw [isTypeDeclaration_stripped]
    split
    · exact (blind_request .typeDeclaration raw).map rfl
    · exact .unsupported raw

/-! ## Bodies -/

/-- What stands in a type body, without the comments in it. -/
def BodyEntry.stripped : BodyEntry → BodyEntry
  | .empty span => .empty span
  | .declaration raw => .declaration raw.stripped

mutual

/-- What stands in a body, by induction on its parts. A semicolon that closes the constants of an enum is
skipped once, and a comment before it does not count as the semicolon. -/
theorem bodyEntriesIn_stripped (separated : Bool) : (parts : List RawNode) →
    bodyEntriesIn separated (RawNode.strippedIn parts) =
      (bodyEntriesIn separated parts).map BodyEntry.stripped
  | [] => by
    unfold RawNode.strippedIn bodyEntriesIn
    rfl
  | part :: rest => by
    rw [RawNode.strippedIn, bodyEntriesIn]
    by_cases kept : part.isKept = true
    · have entries : (if part.tag == "enum_body_declarations" then nestedEntries part.stripped
          else [.declaration part.stripped]) =
          (if part.tag == "enum_body_declarations" then nestedEntries part
            else [.declaration part]).map BodyEntry.stripped := by
        rw [nestedEntries_stripped part]
        split <;> rfl
      rw [part.isComment_of_isKept kept, if_neg Bool.false_ne_true, bodyEntriesIn,
        RawNode.isKept_stripped, RawNode.isNamed_stripped, RawNode.tag_stripped,
        RawNode.span_stripped, entries, bodyEntriesIn_stripped separated rest,
        bodyEntriesIn_stripped false rest, kept]
      cases part.isNamed <;> cases part.tag == ";" <;> cases separated <;> simp [BodyEntry.stripped]
    · -- an extra is skipped whether or not it is a comment
      rw [Bool.not_eq_true] at kept
      rw [kept, Bool.not_false, if_pos rfl]
      split
      · exact bodyEntriesIn_stripped separated rest
      · rw [bodyEntriesIn, RawNode.isKept_stripped, kept, Bool.not_false, if_pos rfl]
        exact bodyEntriesIn_stripped separated rest

/-- The section behind the constants of an enum, which is read one level deeper. -/
theorem nestedEntries_stripped : (raw : RawNode) →
    nestedEntries raw.stripped = (nestedEntries raw).map BodyEntry.stripped
  | .node label parts => by
    rw [RawNode.stripped, nestedEntries, nestedEntries, bodyEntriesIn_stripped true parts]

end

/-- A body is a section that has no separator. -/
theorem bodyEntries_stripped (body : RawNode) :
    bodyEntries body.stripped = (bodyEntries body).map BodyEntry.stripped := by
  rw [bodyEntries, RawNode.parts_stripped, ← RawNode.strippedIn_eq, bodyEntriesIn_stripped,
    bodyEntries]

/-- An entry is an empty declaration, which has an extent only, or a member. -/
theorem strips_bodyEntry (entry : BodyEntry) :
    (bodyEntry source entry.stripped).Strips (bodyEntry source entry) := by
  cases entry with
  | empty span => exact .pure rfl
  | declaration raw => exact blind_member source raw

/-- The members of a body. -/
theorem blind_members : Blind (members source) := by
  intro body
  unfold members
  rw [bodyEntries_stripped]
  exact (Strips.each_map (bodyEntries body) (strips_bodyEntry source)).map rfl

/-- The body of an anonymous class is its members. -/
theorem blind_anonymousClassBody : Blind (anonymousClassBody source) := by
  intro body
  unfold anonymousClassBody
  rw [RawNode.span_stripped]
  exact (blind_members source body).map rfl

/-- The list of interfaces is found through one of two clauses. -/
theorem superInterfaces_stripped (raw : RawNode) :
    superInterfaces raw.stripped = (superInterfaces raw).map RawNode.stripped := by
  unfold superInterfaces
  rw [RawNode.field?_stripped, RawNode.childOfTag?_stripped, ← Option.map_or]
  cases (raw.field? "interfaces").or (raw.childOfTag? "extends_interfaces") with
  | none => rfl
  | some clause => exact clause.childOfTag?_stripped "type_list"

/-- The header is read before the body. A clause with `permits` is refused wherever comments are. -/
theorem blind_typeDeclarationBody : Blind (typeDeclarationBody source) := by
  intro raw
  unfold typeDeclarationBody
  rw [RawNode.tag_stripped]
  split
  · exact .unsupported raw
  · rw [RawNode.field?_stripped raw "permits"]
    cases raw.field? "permits" with
    | some permits => exact .unsupported permits
    | none =>
      refine .bind (blind_modifiersOf source raw) fun modifiers => ?_
      refine .bind (strips_typeParameters source raw "type_parameters") fun types => ?_
      -- the superclass is the first named child of its clause
      have superclass : ((raw.stripped.field? "superclass").bind
          fun clause => clause.namedChildren.head?) =
          ((raw.field? "superclass").bind fun clause => clause.namedChildren.head?).map
            RawNode.stripped := by
        rw [RawNode.field?_stripped]
        cases raw.field? "superclass" with
        | none => rfl
        | some clause =>
          show clause.stripped.namedChildren.head? = _
          rw [RawNode.namedChildren_stripped, List.head?_map]
          rfl
      rw [superclass, superInterfaces_stripped]
      refine .bind (.optional (blind_request .type) _) fun superclass => ?_
      refine .bind (.listed (blind_request .type) _) fun interfaces => ?_
      refine .bind (strips_field (blind_members source) raw "body") fun held => ?_
      exact .checked (by simp)

/-! ## Places among statements -/

/-- A call of another constructor reaches from its object, if it has one, to the end of its arguments.
-/
theorem blind_constructorCall : Blind (constructorCall source) := by
  intro raw
  unfold constructorCall
  refine .bind (strips_field (blind_request .expression) raw "object") fun object => ?_
  refine .bind (strips_typeArguments raw "type_arguments") fun types => ?_
  refine .bind (strips_arguments raw "arguments") fun values => ?_
  rw [RawNode.field?_stripped raw "constructor", RawNode.field?_stripped raw "arguments",
    RawNode.span_stripped]
  refine .map (.checked ?_) rfl
  cases object <;> cases raw.field? "constructor" <;> cases raw.field? "arguments" <;>
    simp only [Option.map_none, Option.map_some, select_stripped, identifier_stripped,
      RawNode.span_stripped]

/-- One raw statement can make several, if it declares several variables. -/
theorem blind_statementsOf : Blind (statementsOf source) := by
  intro raw
  unfold statementsOf
  rw [RawNode.tag_stripped]
  split
  · exact (blind_variableDeclarations source raw).map rfl
  · exact (blind_constructorCall source raw).map rfl
  · rw [isTypeDeclaration_stripped]
    split
    · exact (blind_request .typeDeclaration raw).map rfl
    · exact (blind_request .statement raw).map rfl

/-- A token between statements is either an empty statement or nothing. -/
theorem blind_blockEntry : Blind (blockEntry source) := by
  intro child
  unfold blockEntry
  rw [RawNode.isNamed_stripped, RawNode.tag_stripped, RawNode.span_stripped]
  split
  · exact blind_statementsOf source child
  · split
    · exact .pure rfl
    · exact .pure rfl

/-- All children are read here, tokens included, and comments are no children. -/
theorem blind_statementList : Blind (statementList source) := by
  intro raw
  unfold statementList
  rw [RawNode.children_stripped]
  exact .gather (blind_blockEntry source) _

/-! ## Parts of statements -/

/-- The first named child inside the parentheses, or the node itself if there are none. -/
theorem insideParentheses_stripped (raw : RawNode) :
    insideParentheses raw.stripped = (insideParentheses raw).map RawNode.stripped := by
  unfold insideParentheses
  rw [RawNode.tag_stripped, RawNode.namedChildren_stripped, List.head?_map]
  split <;> rfl

/-- The same for a part that may be absent. -/
theorem bind_insideParentheses_stripped (part : Option RawNode) :
    (part.map RawNode.stripped).bind insideParentheses =
      (part.bind insideParentheses).map RawNode.stripped := by
  cases part with
  | none => rfl
  | some raw => exact insideParentheses_stripped raw

/-- The condition of a statement, in parentheses. -/
theorem blind_condition : Blind condition := by
  intro raw
  unfold condition
  rw [RawNode.field?_stripped, bind_insideParentheses_stripped]
  exact .optional (blind_request .expression) _

/-- An expression that becomes a statement of the same extent. -/
theorem blind_bareExpression : Blind bareExpression := by
  intro raw
  unfold bareExpression
  rw [RawNode.span_stripped]
  exact (blind_request .expression raw).map rfl

/-! ## Loops -/

/-- Variables or an expression. -/
theorem blind_forInitializer : Blind (forInitializer source) := by
  intro raw
  unfold forInitializer
  rw [RawNode.tag_stripped]
  split
  · exact (blind_variableDeclarations source raw).map rfl
  · exact (blind_bareExpression raw).map rfl

/-- Initializers and updates are lists of parts under one name each. -/
theorem blind_forLoop : Blind (forLoop source) := by
  intro raw
  unfold forLoop
  rw [RawNode.fields_stripped raw "init"]
  refine .bind (.gather (blind_forInitializer source) _) fun initializer => ?_
  refine .bind (strips_field (blind_request .expression) raw "condition") fun condition => ?_
  refine .bind (strips_eachField blind_bareExpression raw "update") fun update => ?_
  refine .bind (strips_field (blind_request .statement) raw "body") fun body => ?_
  exact .checked (by simp)

/-- The variable is declared without a value. -/
theorem blind_forEachLoop : Blind (forEachLoop source) := by
  intro raw
  unfold forEachLoop
  refine .bind (strips_declaredVariable source raw none) fun element => ?_
  refine .bind (strips_field (blind_request .expression) raw "value") fun iterable => ?_
  refine .bind (strips_field (blind_request .statement) raw "body") fun body => ?_
  exact .checked (by simp)

/-! ## Handling of exceptions -/

/-- A resource that declares no type is refused. -/
theorem blind_resource : Blind (resource source) := by
  intro raw
  unfold resource
  rw [RawNode.field?_stripped, RawNode.field?_stripped, Option.isNone_map]
  split
  · exact .unsupported raw
  · exact strips_declaredVariable source raw _

/-- One type is taken as it is, and several are joined with the extent of their list. -/
theorem blind_caughtType : Blind caughtType := by
  intro raw
  unfold caughtType
  rw [RawNode.childOfTag?_stripped]
  cases raw.childOfTag? "catch_type" with
  | none => exact .pure rfl
  | some list =>
    refine .bind (strips_eachNamed (blind_request .type) list) fun alternatives => ?_
    rw [RawNode.span_stripped]
    split
    · exact .map (.checked rfl) rfl
    · exact .pure rfl

/-- The modifiers and the type of what is caught. -/
theorem blind_catchParameter : Blind (catchParameter source) := by
  intro raw
  unfold catchParameter
  refine .bind (blind_modifiersOf source raw) fun modifiers => ?_
  refine .bind (blind_caughtType raw) fun caught => ?_
  exact .checked (by simp)

/-- A parameter and a block. -/
theorem blind_catchClause : Blind (catchClause source) := by
  intro raw
  unfold catchClause
  refine .bind (strips_childOfTag (blind_catchParameter source) raw "catch_formal_parameter")
    fun parameter => ?_
  refine .bind (strips_field blind_block raw "body") fun body => ?_
  exact .checked (by simp)

/-- Resources, the block, clauses and a last block. The resources are read from a list inside a list. -/
theorem blind_tryBlock : Blind (tryBlock source) := by
  intro raw
  unfold tryBlock
  -- two of the parts are looked up in two steps
  have resources : (((raw.stripped.field? "resources").map
      fun list => list.childrenOfTag "resource").getD []) =
      (((raw.field? "resources").map fun list => list.childrenOfTag "resource").getD []).map
        RawNode.stripped := by
    rw [RawNode.field?_stripped]
    cases raw.field? "resources" with
    | none => rfl
    | some list => exact list.childrenOfTag_stripped "resource"
  have finallyBlock : ((raw.stripped.childOfTag? "finally_clause").bind
      fun clause => clause.childOfTag? "block") =
      ((raw.childOfTag? "finally_clause").bind fun clause => clause.childOfTag? "block").map
        RawNode.stripped := by
    rw [RawNode.childOfTag?_stripped]
    cases raw.childOfTag? "finally_clause" with
    | none => rfl
    | some clause => exact clause.childOfTag?_stripped "block"
  dsimp only
  rw [resources, finallyBlock, RawNode.childrenOfTag_stripped]
  refine .bind (.each (blind_resource source) _) fun resources => ?_
  refine .bind (strips_field blind_block raw "body") fun body => ?_
  refine .bind (.each (blind_catchClause source) _) fun catches => ?_
  refine .bind (.optional blind_block _) fun finallyBlock => ?_
  exact .checked (by simp)

/-! ## Switches -/

/-- Each value of a label is an expression, or a pattern that is refused. -/
theorem blind_caseLabel : Blind caseLabel := by
  intro raw
  unfold caseLabel
  dsimp only
  rw [RawNode.span_stripped]
  refine Strips.map (strips_eachNamed (fun child => ?_) raw) rfl
  rw [RawNode.tag_stripped]
  split
  · exact .unsupported child
  · exact .unsupported child
  · exact .unsupported child
  · exact .unsupported child
  · exact blind_request .expression child

/-- A label of a group, or a statement. -/
theorem blind_caseEntry : Blind (caseEntry source) := by
  intro child
  unfold caseEntry
  rw [RawNode.tag_stripped]
  split
  · exact (blind_caseLabel child).map rfl
  · exact (blind_blockEntry source child).map rfl

/-- The labels and statements of one group. -/
theorem blind_caseGroupBody : Blind (caseGroupBody source) := by
  intro raw
  unfold caseGroupBody
  rw [RawNode.children_stripped]
  exact (Strips.each (blind_caseEntry source) _).map rfl

/-- Labels are carried on to the next group as long as no statement follows. What is carried is the
same on both sides, so the induction is on the groups for any labels that are pending. -/
theorem strips_caseGroups (pending : Option (Span × List CaseLabel)) (groups : List RawNode) :
    (caseGroups pending (groups.map RawNode.stripped)).Strips (caseGroups pending groups) := by
  induction groups generalizing pending with
  | nil =>
    cases pending with
    | none => exact .pure rfl
    | some first => exact .map (.checked rfl) rfl
  | cons group rest ih =>
    rw [List.map_cons, caseGroups, caseGroups, RawNode.tag_stripped, RawNode.span_stripped]
    split
    · exact .unsupported group
    · refine .bind (blind_request .caseGroup group) fun lowered => ?_
      dsimp only
      split
      · exact ih _
      · exact .bind (.checked rfl) fun made => (ih none).map rfl

/-- A value and the groups of the body. -/
theorem blind_switchStatement : Blind switchStatement := by
  intro raw
  unfold switchStatement
  refine .bind (blind_condition raw) fun selector => ?_
  have groups : (((raw.stripped.field? "body").map RawNode.namedChildren).getD []) =
      (((raw.field? "body").map RawNode.namedChildren).getD []).map RawNode.stripped := by
    rw [RawNode.field?_stripped]
    cases raw.field? "body" with
    | none => rfl
    | some body => exact body.namedChildren_stripped
  dsimp only
  rw [groups, RawNode.span_stripped]
  exact .bind (strips_caseGroups none _) fun cases => .checked rfl

/-! ## All statements -/

/-- Where one statement is wanted, several are refused. -/
theorem strips_soleStatement (raw : RawNode) {made made' : Lowering (List Statement)}
    (h : made.Strips made') :
    (soleStatement raw.stripped made).Strips (soleStatement raw made') := by
  unfold soleStatement
  refine .bind h fun statements => ?_
  split
  · exact .pure rfl
  · exact .unsupported raw

/-- All statements that are named nodes, by the tag. -/
theorem blind_namedStatementBody : Blind (namedStatementBody source) := by
  intro raw
  unfold namedStatementBody
  rw [RawNode.tag_stripped]
  split
  case h_1 =>
    rw [RawNode.span_stripped]
    exact (blind_statementList source raw).map rfl
  case h_2 =>
    -- an expression statement
    rw [RawNode.span_stripped]
    refine .bind (strips_firstNamed (blind_request .expression) raw) fun value => ?_
    exact .map (.checked rfl) rfl
  case h_3 =>
    -- a labeled statement
    refine .bind (strips_secondNamed (blind_request .statement) raw) fun labeled => ?_
    exact .checked (by simp)
  case h_4 =>
    -- `if`
    refine .bind (blind_condition raw) fun test => ?_
    refine .bind (strips_field (blind_request .statement) raw "consequence") fun whenTrue => ?_
    refine .bind (strips_field (blind_request .statement) raw "alternative") fun whenFalse => ?_
    exact .checked (by simp)
  case h_5 =>
    -- `while`
    refine .bind (blind_condition raw) fun test => ?_
    refine .bind (strips_field (blind_request .statement) raw "body") fun body => ?_
    exact .checked (by simp)
  case h_6 =>
    -- `do`
    refine .bind (strips_field (blind_request .statement) raw "body") fun body => ?_
    refine .bind (blind_condition raw) fun test => ?_
    exact .checked (by simp)
  case h_7 => exact blind_forLoop source raw
  case h_8 => exact blind_forEachLoop source raw
  case h_11 =>
    -- `return`
    rw [RawNode.span_stripped]
    exact (strips_firstNamed (blind_request .expression) raw).map rfl
  case h_12 =>
    -- `throw`
    refine .bind (strips_firstNamed (blind_request .expression) raw) fun thrown => ?_
    exact .checked (by simp)
  case h_13 =>
    -- `assert`
    refine .bind (strips_firstNamed (blind_request .expression) raw) fun test => ?_
    refine .bind (strips_secondNamed (blind_request .expression) raw) fun detail => ?_
    exact .checked (by simp)
  case h_14 =>
    -- `synchronized`
    rw [RawNode.childOfTag?_stripped, bind_insideParentheses_stripped]
    refine .bind (.optional (blind_request .expression) _) fun lock => ?_
    refine .bind (strips_field blind_block raw "body") fun body => ?_
    exact .checked (by simp)
  case h_15 | h_16 => exact blind_tryBlock source raw
  case h_17 => exact blind_switchStatement raw
  case h_18 | h_19 => exact strips_soleStatement raw (blind_statementsOf source raw)
  case h_20 =>
    rw [isTypeDeclaration_stripped]
    split
    · exact (blind_request .typeDeclaration raw).map rfl
    · exact .unsupported raw
  -- jumps ask for nothing
  all_goals exact .pure (by simp)

/-- A semicolon alone is a statement too, and is no named node. -/
theorem blind_statementBody : Blind (statementBody source) := by
  intro raw
  unfold statementBody
  rw [RawNode.isNamed_stripped, RawNode.tag_stripped, RawNode.span_stripped]
  split
  · exact blind_namedStatementBody source raw
  · split
    · exact .pure rfl
    · exact .unsupported raw

/-! ## All constructs -/

/-- **No construct sees comments or flags.** -/
theorem blind_body (construct : Construct) : Blind (body source construct) := by
  cases construct with
  | expression => exact blind_expressionBody source
  | type => exact blind_typeBody source
  | statement => exact blind_statementBody source
  | statements => exact blind_statementList source
  | typeDeclaration => exact blind_typeDeclarationBody source
  | anonymousClass => exact blind_anonymousClassBody source
  | annotationUse => exact blind_annotationBody source
  | caseGroup => exact blind_caseGroupBody source
  | arrayElements => exact blind_arrayElementsBody
  | innerElements => exact blind_innerElementsBody
  | annotationValues => exact blind_annotationValuesBody source

/-! ## Whole sources -/

/-- The name, its asterisk and the keyword `static`. -/
theorem blind_importDeclaration : Blind (importDeclaration source) := by
  intro raw
  unfold importDeclaration
  rw [RawNode.namedChildren_stripped, RawNode.find?_map_stripped (fun child => by simp),
    RawNode.childOfTag?_stripped, RawNode.span_stripped, RawNode.hasToken_stripped]
  refine .bind (.optional (blind_request .expression) _) fun name => ?_
  refine .checked ?_
  cases name <;> cases raw.childOfTag? "asterisk" <;>
    simp only [Option.map_none, Option.map_some, select_stripped]

/-- An annotation of a package, or its name. -/
theorem blind_packagePart : Blind packagePart := by
  intro part
  unfold packagePart
  rw [isAnnotationUse_stripped]
  split
  · exact (blind_request .annotationUse part).map rfl
  · exact (blind_request .expression part).map rfl

/-- A package makes several parts, an import or a type one. -/
theorem blind_unitParts : Blind (unitParts source) := by
  intro raw
  unfold unitParts
  rw [RawNode.tag_stripped]
  split
  · exact strips_eachNamed blind_packagePart raw
  · exact (blind_importDeclaration source raw).map rfl
  · rw [isTypeDeclaration_stripped]
    split
    · exact (blind_request .typeDeclaration raw).map rfl
    · exact .unsupported raw

/-- All named children of the root. -/
theorem blind_compilationUnit : Blind (compilationUnit source) := by
  intro root
  unfold compilationUnit
  rw [RawNode.namedChildren_stripped, RawNode.span_stripped]
  exact .bind (.gather (blind_unitParts source) _) fun parts => .checked rfl

/-- What a refusal lists is tags, which do not change. -/
theorem described_stripped (children : List RawNode) :
    described (children.map RawNode.stripped) = described children := by
  unfold described
  rw [List.isEmpty_map, List.map_map]
  have : RawNode.tag ∘ RawNode.stripped = RawNode.tag := funext RawNode.tag_stripped
  rw [this]

/-- Named children decide by their number and their tags. Neither tokens nor comments are among them. -/
theorem blind_soleExpression : Blind soleExpression := by
  intro root
  have found := described_stripped root.namedChildren
  unfold soleExpression
  rw [RawNode.namedChildren_stripped]
  revert found
  match root.namedChildren with
  | [] => exact fun _ => .refuse rfl
  | first :: second :: rest => exact fun found => .refuse (congrArg _ found)
  | [only] =>
    intro found
    rw [List.map_singleton] at found ⊢
    dsimp only
    rw [RawNode.tag_stripped, RawNode.namedChildren_stripped]
    split
    · match only.namedChildren with
      | [] => exact .refuse rfl
      | inner :: _ => exact blind_request .expression inner
    · exact .refuse (congrArg _ found)

end Lowering

end JavaSyntax
