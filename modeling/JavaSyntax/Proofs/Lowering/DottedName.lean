import JavaSyntax.Proofs.Lowering.Forms.Entry
import JavaSyntax.Proofs.Tree.QualifiedName

/-!
# Dotted names — three raw forms, one chain of selections

The grammar has three nodes for `a.b`: for packages and imports, for expressions and for types. Each holds
what stands before its last dot and the name after it, and each is lowered to a selection of the name. A
name with `n` parts is a chain of them that is `n` levels deep, so it needs room for `n` levels.

* `NameForm`, `NameForm.Joins`: the three nodes and what they hold;
* `DottedNode`: the raw tree of a dotted name, and its names;
* `SelectChain`: the chain of selections over those names, with the extent of each;
* `NamePlace`, `lower_dottedNode`: where a name is lowered, and what room it needs;
* `lower_dotted`: what a dotted name is lowered to as an expression, as a type and in an import.
-/

namespace JavaSyntax

/-! ## Raw names -/

/-- The nodes that the grammar has for a dotted name. -/
inductive NameForm where
  | scopedIdentifier
  | fieldAccess
  | scopedType

namespace NameForm

/-- The tag of a name without a dot. -/
def leafTag : NameForm → String
  | scopedIdentifier | fieldAccess => "identifier"
  | scopedType => "type_identifier"

/-- Whether a node joins a name after a dot to what stands before it. Comments are no children, and
annotations may stand before the last name of a type. -/
def Joins (raw scope name : RawNode) : NameForm → Prop
  | scopedIdentifier => raw.tag = "scoped_identifier" ∧ raw.field? "scope" = some scope ∧
      raw.field? "name" = some name
  | fieldAccess => raw.tag = "field_access" ∧ raw.field? "object" = some scope ∧
      raw.field? "field" = some name ∧ raw.namedChildren = [scope, name]
  | scopedType => raw.tag = "scoped_type_identifier" ∧
      ∃ notes, raw.namedChildren = scope :: (notes ++ [name])

end NameForm

/-- The raw tree of a dotted name from `first` on, with its names: each node joins one more name and
reaches from the first name to that one. -/
inductive DottedNode (form : NameForm) (first : RawNode) : List RawNode → RawNode → Prop where
  | leaf (tag : first.tag = form.leafTag) : DottedNode form first [first] first
  | level {names scope raw name} (inner : DottedNode form first names scope)
      (joins : form.Joins raw scope name) (span : raw.span = first.span.through name.span) :
      DottedNode form first (names ++ [name]) raw

/-- All nodes of a dotted name start where its first name does. -/
theorem DottedNode.position_eq {form : NameForm} {first raw : RawNode} {names : List RawNode}
    (h : DottedNode form first names raw) : raw.position = first.position := by
  cases h with
  | leaf => rfl
  | level _ _ span =>
    have start : raw.label.start.narrow = first.label.start.narrow := congrArg Span.start span
    simp only [RawNode.position, LineCol.oneBased, start]

namespace Lowering

variable {source : String} {limit room : Nat} {first raw scope name : RawNode}
  {names : List RawNode} {form : NameForm} {e : Expression}

/-! ## Chains of selections -/

variable (source first) in
/-- The selections of names one from the other: the inner one over the names up to some `x` reaches from
the start of the first name to the end of `x`. -/
inductive SelectChain : List RawNode → Expression → Prop where
  | name : SelectChain [first] (.identifier (identifier source first))
  | dot {names name inner} (chain : SelectChain names inner) :
      SelectChain (names ++ [name])
        (.memberSelect (first.span.through name.span) inner (identifier source name))

namespace SelectChain

theorem through_eq (h : SelectChain source first names e) (span : Span) :
    e.span.through span = first.span.through span := by
  cases h <;> rfl

theorem isDotted (h : SelectChain source first names e) : e.IsDotted := by
  induction h with
  | name => exact .identifier
  | dot _ ih => exact .select ih

theorem identifiers_eq (h : SelectChain source first names e) :
    e.node.identifiers = names.map (identifier source) := by
  induction h with
  | name => exact Expression.identifiers_identifier
  | dot _ ih =>
    rw [Expression.identifiers_memberSelect, ih, List.map_append]
    rfl

/-- There is one selection less than there are names. -/
theorem size_eq (h : SelectChain source first names e) : e.node.size + 1 = 2 * names.length := by
  induction h with
  | name =>
    show (identifier source first).node.size + 1 = 2
    rw [Node.size, Expression.preorder_identifier]
    rfl
  | dot _ ih =>
    rw [Node.size, Expression.preorder_memberSelect, List.length_cons, List.length_append,
      ← Node.size, List.length_append, List.length_singleton, List.length_singleton]
    omega

theorem qualifiedName_eq (h : SelectChain source first names e) :
    e.qualifiedName? = some (".".intercalate (names.map (RawNode.text source))) := by
  rw [Expression.qualifiedName?_of_isDotted h.isDotted, h.identifiers_eq, List.map_map]
  rfl

end SelectChain

/-! ## Names in expressions and types -/

/-- What a dotted name is lowered as. -/
inductive NamePlace where
  | expression
  | type

/-- Lowers a name in its place. -/
def NamePlace.lower (source : String) (limit room : Nat) :
    NamePlace → RawNode → Except SyntaxError Expression
  | expression => JavaSyntax.lower source limit room .expression
  | type => JavaSyntax.lower source limit room .type

/-- Whether a form of names may stand in a place. The access to a field is no type. -/
def NamePlace.Takes : NamePlace → NameForm → Prop
  | type, .fieldAccess => False
  | _, _ => True

/-- What stands before a dot is lowered as. -/
def scopePlace : NameForm → NamePlace
  | .scopedIdentifier | .fieldAccess => .expression
  | .scopedType => .type

theorem takes_scopePlace (form : NameForm) : (scopePlace form).Takes form := by
  cases form <;> trivial

theorem NamePlace.lower_zero (place : NamePlace) :
    place.lower source limit 0 raw = .error (raw.tooDeep limit) := by
  cases place <;> rfl

theorem NamePlace.lower_leaf (place : NamePlace) (tag : raw.tag = form.leafTag) :
    place.lower source limit (room + 1) raw = .ok (.identifier (identifier source raw)) := by
  have either : raw.tag = "identifier" ∨ raw.tag = "type_identifier" := by
    cases form with
    | scopedType => exact .inr tag
    | _ => exact .inl tag
  cases place with
  | expression =>
    rw [NamePlace.lower, lower_succ, body]
    rcases either with tag | tag <;>
      simp [expressionBody, literalKind?, compoundBody, typeTags, typeBody, tag, run]
  | type =>
    rw [NamePlace.lower, lower_succ, body]
    rcases either with tag | tag <;> simp [typeBody, tag, run]

/-- What a node of a dotted name consists of. -/
def levelBody (source : String) (raw scope name : RawNode) : NameForm → Lowering Expression
  | .scopedIdentifier | .fieldAccess => do
    let e ← expression scope
    return .memberSelect raw.span e (identifier source name)
  | .scopedType => do
    let e ← typeExpression scope
    return select source e name

theorem NamePlace.lower_level {place : NamePlace} (joins : form.Joins raw scope name)
    (takes : place.Takes form) : place.lower source limit (room + 1) raw =
      (levelBody source raw scope name form).run (JavaSyntax.lower source limit room) := by
  -- a node is recognised by its tag, in either place; a field access alone is no type
  cases form with
  | scopedIdentifier =>
    obtain ⟨tag, found, named⟩ := joins
    have made : scopedName source raw = levelBody source raw scope name .scopedIdentifier := by
      simp only [scopedName, found, named, optional, Option.map_some]
      rfl
    cases place <;> rw [NamePlace.lower, lower_succ, body, ← made]
    · simp [expressionBody, literalKind?, compoundBody, tag]
    · simp [typeBody, tag]
  | fieldAccess =>
    obtain ⟨tag, found, named, children⟩ := joins
    have made : fieldAccess source raw = levelBody source raw scope name .fieldAccess := by
      simp only [fieldAccess, found, named, children, optional, Option.map_some]
      rfl
    cases place with
    | expression =>
      rw [NamePlace.lower, lower_succ, body, ← made]
      simp [expressionBody, literalKind?, compoundBody, tag]
    | type => exact takes.elim
  | scopedType =>
    obtain ⟨tag, notes, children⟩ := joins
    have made : typeBody source raw = levelBody source raw scope name .scopedType := by
      simp only [typeBody, tag, children]
      cases notes with
      | nil => rfl
      | cons note rest =>
        simp only [List.cons_append, List.getLastD_concat]
        rfl
    cases place <;> rw [NamePlace.lower, lower_succ, body, ← made]
    simp [expressionBody, literalKind?, compoundBody, typeTags, tag]

/-- A node of a dotted name is lowered if what stands before its dot is, and to a selection from that.
-/
theorem run_levelBody (span : ∀ e, (scopePlace form).lower source limit room scope = .ok e →
      raw.span = e.span.through name.span) :
    (levelBody source raw scope name form).run (JavaSyntax.lower source limit room) =
      ((scopePlace form).lower source limit room scope).map fun e =>
        .memberSelect raw.span e (identifier source name) := by
  cases form with
  | scopedType =>
    rw [levelBody, run_bind, run_typeExpression]
    simp only [scopePlace, NamePlace.lower] at span ⊢
    cases inner : JavaSyntax.lower source limit room .type scope with
    | error => rfl
    | ok e =>
      rw [span e inner]
      rfl
  | _ =>
    rw [levelBody, run_bind, run_expression]
    simp only [scopePlace, NamePlace.lower]
    cases JavaSyntax.lower source limit room .expression scope <;> rfl

/-- With room for as many levels as there are names a dotted name is lowered to their chain, and with
less the node that lies too deep is reported, which starts where the name does. -/
theorem lower_dottedNode (source : String) (limit : Nat) (h : DottedNode form first names raw)
    (place : NamePlace) (takes : place.Takes form) (room : Nat) :
    (names.length ≤ room → ∃ e, place.lower source limit room raw = .ok e ∧
      SelectChain source first names e) ∧
    (room < names.length → place.lower source limit room raw = .error (first.tooDeep limit)) := by
  induction h generalizing place room with
  | leaf tag =>
    cases room with
    | zero => exact ⟨nofun, fun _ => place.lower_zero⟩
    | succ room =>
      refine ⟨fun _ => ⟨_, place.lower_leaf tag, .name⟩, fun shallow => ?_⟩
      exact absurd shallow (by simp)
  | @level names scope raw name inner joins span ih =>
    rw [List.length_append, List.length_singleton]
    cases room with
    | zero =>
      refine ⟨nofun, fun _ => ?_⟩
      rw [place.lower_zero, RawNode.tooDeep, (inner.level joins span).position_eq]
      rfl
    | succ room =>
      -- what stands before the dot has its own place, whatever the place of the whole
      obtain ⟨deep, shallow⟩ := ih (scopePlace form) (takes_scopePlace form) room
      rw [NamePlace.lower_level joins takes]
      constructor
      · intro enough
        obtain ⟨e, given, chain⟩ := deep (Nat.le_of_succ_le_succ enough)
        have extent : ∀ e', (scopePlace form).lower source limit room scope = .ok e' →
            raw.span = e'.span.through name.span := by
          intro e' given'
          rw [given, Except.ok.injEq] at given'
          rw [span, ← given', chain.through_eq]
        refine ⟨_, by rw [run_levelBody extent, given]; rfl, ?_⟩
        rw [span]
        exact chain.dot
      · intro few
        have none_ := shallow (Nat.lt_of_succ_lt_succ few)
        rw [run_levelBody (by simp [none_]), none_]
        rfl

/-! ## Names in imports -/

/-- An import selects `*` from its name if it has an asterisk. -/
theorem run_importDeclaration {below : Answers} {part : RawNode}
    (named : raw.namedChildren.find? (fun child => child.tag != "asterisk") = some part) :
    (importDeclaration source raw).run below =
      (below .expression part).map fun e =>
        ⟨raw.span, raw.hasToken "static", (raw.childOfTag? "asterisk").elim e (select source e)⟩ := by
  rw [importDeclaration, named, optional, run_bind, run_bind, run_expression]
  cases below .expression part with
  | error => rfl
  | ok e => cases raw.childOfTag? "asterisk" <;> rfl

theorem SelectChain.isOnDemand_eq_false {span : Span} {isStatic : Bool}
    (chain : SelectChain source first names e)
    (plain : ∀ name ∈ names, name.text source ≠ "*") :
    (⟨span, isStatic, e⟩ : Import).isOnDemand = false := by
  cases chain with
  | name => rfl
  | dot =>
    have last := plain _ (List.mem_append_right _ (List.mem_singleton_self _))
    simpa [Import.isOnDemand, identifier, Identifier.name, RawNode.token] using last

/-- The name of an import is one name longer if there is an asterisk, and that decides whether it is on
demand. -/
theorem SelectChain.import_eq {span : Span} {isStatic : Bool} {star : Option RawNode}
    (chain : SelectChain source first names e)
    (plain : ∀ name ∈ names, name.text source ≠ "*")
    (asterisk : ∀ node ∈ star, node.text source = "*") :
    SelectChain source first (names ++ star.toList) (star.elim e (select source e)) ∧
      ((⟨span, isStatic, star.elim e (select source e)⟩ : Import).isOnDemand ↔ star.isSome) := by
  cases star with
  | none =>
    rw [Option.toList_none, List.append_nil, Option.elim_none, chain.isOnDemand_eq_false plain]
    exact ⟨chain, by simp⟩
  | some node =>
    refine ⟨?_, ?_⟩
    · rw [Option.toList_some, Option.elim_some, select, chain.through_eq]
      exact chain.dot
    · simpa [Import.isOnDemand, select, identifier, Identifier.name, RawNode.token]
        using asterisk node rfl

end Lowering

open Lowering

/-- **Dotted names.** In each of its raw forms a name of `n` parts is lowered to a chain of `n - 1`
selections, if there is room for `n` levels. It yields the parts as its identifiers and joins them with
dots, whatever stood between them in the source, and what it reports without that room is the nesting.
From such a name an import selects `*` just if it has an asterisk, and is then on demand. No other
expression has a qualified name. -/
theorem lower_dotted (source : String) (limit : Nat) {form : NameForm} {first raw : RawNode}
    {names : List RawNode} (dotted : DottedNode form first names raw) (room : Nat) :
    (∀ place : NamePlace, place.Takes form →
      (names.length ≤ room → ∃ e, place.lower source limit room raw = .ok e ∧
        SelectChain source first names e ∧ e.node.size + 1 = 2 * names.length ∧
        e.node.identifiers = names.map (identifier source) ∧
        e.qualifiedName? = some (".".intercalate (names.map (RawNode.text source)))) ∧
      (room < names.length → place.lower source limit room raw = .error (first.tooDeep limit))) ∧
    (∀ declaration : RawNode,
      declaration.namedChildren.find? (fun child => child.tag != "asterisk") = some raw →
      (∀ name ∈ names, name.text source ≠ "*") →
      (∀ star ∈ declaration.childOfTag? "asterisk", star.text source = "*") →
      (names.length ≤ room → ∃ i,
        (importDeclaration source declaration).run (lower source limit room) = .ok i ∧
        SelectChain source first (names ++ (declaration.childOfTag? "asterisk").toList) i.name ∧
        (i.isOnDemand ↔ (declaration.childOfTag? "asterisk").isSome)) ∧
      (room < names.length →
        (importDeclaration source declaration).run (lower source limit room) =
          .error (first.tooDeep limit))) ∧
    ∀ (e : Expression) (text : String), e.qualifiedName? = some text ↔
      e.IsDotted ∧ text = ".".intercalate (e.node.identifiers.map Identifier.name) := by
  refine ⟨fun place takes => ?_, fun declaration named plain asterisk => ?_,
    Expression.qualifiedName?_eq_some_iff⟩
  · obtain ⟨deep, shallow⟩ := lower_dottedNode source limit dotted place takes room
    refine ⟨fun enough => ?_, shallow⟩
    obtain ⟨e, given, chain⟩ := deep enough
    exact ⟨e, given, chain, chain.size_eq, chain.identifiers_eq, chain.qualifiedName_eq⟩
  · obtain ⟨deep, shallow⟩ := lower_dottedNode source limit dotted .expression trivial room
    simp only [NamePlace.lower] at deep shallow
    rw [run_importDeclaration named]
    constructor
    · intro enough
      obtain ⟨e, given, chain⟩ := deep enough
      rw [given]
      exact ⟨_, rfl, chain.import_eq plain asterisk⟩
    · intro few
      rw [shallow few]
      rfl

open RawNode (onLine)

/-- The name in `import a . b.*;`. -/
def packageOfTwo : RawNode :=
  onLine "scoped_identifier" true none 7 12
    [onLine "identifier" true (some "scope") 7 8 [], onLine "." false none 9 10 [],
     onLine "identifier" true (some "name") 11 12 []]

/-- The import of all that it holds. -/
def onDemandImport : RawNode :=
  onLine "import_declaration" true none 0 15
    [onLine "import" false none 0 6 [], packageOfTwo, onLine "." false none 12 13 [],
     onLine "asterisk" true none 13 14 [onLine "*" false none 13 14 []],
     onLine ";" false none 14 15 []]

theorem onDemandImport_selects :
    (∃ e, NamePlace.expression.lower "import a . b.*;" 64 2 packageOfTwo = .ok e ∧
        e.qualifiedName? = some "a.b") ∧
      (∃ i, (importDeclaration "import a . b.*;" onDemandImport).run
          (lower "import a . b.*;" 64 2) = .ok i ∧ i.isOnDemand ∧ i.name.node.size = 5) ∧
      NamePlace.expression.lower "import a . b.*;" 64 1 packageOfTwo =
        .error (.nestingTooDeep 64 1 8) := by
  have dotted : DottedNode .scopedIdentifier (onLine "identifier" true (some "scope") 7 8 [])
      [onLine "identifier" true (some "scope") 7 8 [], onLine "identifier" true (some "name") 11 12 []]
      packageOfTwo := .level (.leaf rfl) ⟨rfl, rfl, rfl⟩ rfl
  obtain ⟨inPlace, inImport, -⟩ :=
    lower_dotted "import a . b.*;" 64 dotted 2
  obtain ⟨e, given, -, -, -, named⟩ := (inPlace .expression trivial).1 (by decide)
  have texts : RawNode.text "import a . b.*;" (onLine "identifier" true (some "scope") 7 8 []) = "a" ∧
      RawNode.text "import a . b.*;" (onLine "identifier" true (some "name") 11 12 []) = "b" := by decide
  have asterisk : ∀ star ∈ onDemandImport.childOfTag? "asterisk",
      star.text "import a . b.*;" = "*" := by
    rintro _ ⟨⟩
    decide
  obtain ⟨i, made, chain, onDemand⟩ :=
    (inImport onDemandImport rfl (by simp [texts]) asterisk).1 (by decide)
  refine ⟨⟨e, given, named.trans (by decide)⟩, ⟨i, made, onDemand.mpr rfl, ?_⟩,
    ((lower_dotted _ _ dotted 1).1 .expression trivial).2 (by decide)⟩
  have size : i.name.node.size + 1 = 2 * 3 := chain.size_eq
  omega

end JavaSyntax
