import JavaSyntax.Proofs.Tree.Checked
import JavaSyntax.Proofs.Tree.Children
import JavaSyntax.Proofs.Tree.Draft
import JavaSyntax.Proofs.Tree.Traversal

/-!
# Well-formed trees — constructors accept exactly what they require

A constructor looks at its requirements in a fixed order and refuses at the first one that is not met.
There is one lemma for each kind of requirement, and each constructor is a chain of them.

* `Meets`: whether a call answers as its requirements say;
* `Draft.make_meets`: all constructors do, and the node that is made answers with the arguments;
* `Node.WellFormed`: the rules that tie the kind and the parts of a node together;
* `construction_exact`: when constructors succeed, what they answer, and what holds throughout a tree
  that is made by them.

`Meets` is stated for a call and a list, so that a chain of checks is proved in the order in which the
constructor makes them. The order matters: which error is reported depends on it, and it is the order of
the list of requirements.
-/

namespace JavaSyntax

/-! ## Requirements in order -/

section

variable {α β : Type} {kind : Kind} {rs : List Requirement} {made : Except TreeError α}
  {Q : α → Prop} {slot : String}

/-- Whether a call is refused at the first of the requirements that is not met, and otherwise gives a
value of which `Q` holds. -/
def Meets (kind : Kind) (rs : List Requirement) (made : Except TreeError α) (Q : α → Prop) : Prop :=
  match rs.find? fun r => !r.holds kind with
  | some broken => made = .error (broken.refusal kind)
  | none => ∃ a, made = .ok a ∧ Q a

namespace Meets

/-- Without requirements the call gives its value. -/
theorem done {a : α} (h : Q a) : Meets kind [] (.ok a) Q := ⟨a, rfl, h⟩

/-- A first requirement refuses the call, or leaves it to the others. -/
theorem cons {r : Requirement} (fails : r.holds kind = false → made = .error (r.refusal kind))
    (passes : r.holds kind = true → Meets kind rs made Q) : Meets kind (r :: rs) made Q := by
  unfold Meets
  rw [List.find?_cons]
  cases h : r.holds kind with
  | false => exact fails h
  | true => exact passes h

/-- A part that has to be there. -/
theorem require {part : Option β} {rest : β → Except TreeError α}
    (h : ∀ b, part = some b → Meets kind rs (rest b) Q) :
    Meets kind (.needs part.isSome slot :: rs) (Checked.require part kind slot >>= rest) Q := by
  cases part with
  | none => exact cons (fun _ => rfl) nofun
  | some b => exact cons nofun fun _ => h b rfl

/-- A part that must be absent. -/
theorem forbid {part : Option β} {rest : Unit → Except TreeError α}
    (h : part = none → Meets kind rs (rest ()) Q) :
    Meets kind (.excludes part.isSome slot :: rs) (Checked.forbid part kind slot >>= rest) Q := by
  cases part with
  | none => exact cons nofun fun _ => h rfl
  | some b => exact cons (fun _ => rfl) nofun

/-- A condition on the parts. -/
theorem demand {met : Bool} {rest : Unit → Except TreeError α}
    (h : met = true → Meets kind rs (rest ()) Q) :
    Meets kind (.needs met slot :: rs) (Checked.demand met kind slot >>= rest) Q := by
  cases met with
  | false => exact cons (fun _ => rfl) nofun
  | true => exact cons nofun fun _ => h rfl

section

variable {shape : Shape} {name : String}

/-- A kind of another family is refused before anything else. -/
theorem mismatch (h : kind.shape ≠ shape) :
    Meets kind (.family shape name :: rs) (.error (.kindMismatch kind name)) Q :=
  cons (fun _ => rfl) fun holds => absurd (of_decide_eq_true holds) h

/-- A kind of the right family passes the first requirement. -/
theorem family (h : kind.shape = shape) (rest : Meets kind rs made Q) :
    Meets kind (.family shape name :: rs) made Q :=
  cons (fun fails => absurd h (of_decide_eq_false fails)) fun _ => rest

end

/-- A node is made of what the constructor gives, and its errors are those of the constructor. -/
theorem map {f : α → β} {P : β → Prop} (h : Meets kind rs made fun a => P (f a)) :
    Meets kind rs (f <$> made) P := by
  unfold Meets at h ⊢
  split at h
  case h_1 broken =>
    rw [h]
    rfl
  case h_2 =>
    obtain ⟨a, made, holds⟩ := h
    exact ⟨f a, congrArg (f <$> ·) made, holds⟩

/-! ### What follows -/

/-- The call is refused with the error of the first requirement that is broken. -/
theorem error_of_find? (h : Meets kind rs made Q) {broken : Requirement}
    (first : rs.find? (fun r => !r.holds kind) = some broken) :
    made = .error (broken.refusal kind) := by
  unfold Meets at h
  rwa [first] at h

/-- A call that meets all requirements gives a value. -/
theorem exists_of_forall (h : Meets kind rs made Q) (met : ∀ r ∈ rs, r.holds kind) :
    ∃ a, made = .ok a ∧ Q a := by
  have none : rs.find? (fun r => !r.holds kind) = none :=
    List.find?_eq_none.mpr fun r hr => by simp [met r hr]
  unfold Meets at h
  rwa [none] at h

/-- A call that gives a value meets all requirements. -/
theorem forall_of_ok (h : Meets kind rs made Q) {a : α} (ok : made = .ok a) :
    (∀ r ∈ rs, r.holds kind) ∧ Q a := by
  unfold Meets at h
  split at h
  case h_1 broken first => exact absurd (ok.symm.trans h) nofun
  case h_2 none =>
    obtain ⟨b, same, holds⟩ := h
    cases ok.symm.trans same
    exact ⟨fun r hr => by simpa using List.find?_eq_none.mp none r hr, holds⟩

end Meets

end

/-! ## Constructors -/

/-- The constructors of expressions. Those for a family of kinds look at the kind first. -/
theorem ExpressionDraft.make_meets (d : ExpressionDraft) :
    Meets d.kind d.requirements d.make fun e => e.node.draft = .expression d := by
  cases d with
  | identifier token => exact .done rfl
  | literal kind token =>
    cases kind with
    | literal l => exact .family rfl (.done rfl)
    | _ => exact .mismatch nofun
  | memberSelect span qualifier name =>
    exact .require fun q hq => .require fun n hn => .done (by rw [hq, hn]; rfl)
  | methodInvocation span select typeArguments arguments =>
    exact .require fun s hs => .done (by rw [hs]; rfl)
  | newClass span enclosing typeArguments type arguments body =>
    exact .require fun t ht => .done (by rw [ht]; rfl)
  | newArray span elementType dimensions initializers => exact .demand fun _ => .done rfl
  | arrayAccess span array index =>
    exact .require fun a ha => .require fun i hi => .done (by rw [ha, hi]; rfl)
  | parenthesized span inner => exact .require fun i hi => .done (by rw [hi]; rfl)
  | typeCast span type value =>
    exact .require fun t ht => .require fun v hv => .done (by rw [ht, hv]; rfl)
  | instanceOf span value keyword type =>
    exact .require fun v hv => .require fun t ht => .done (by rw [hv, ht]; rfl)
  | conditional span condition whenTrue whenFalse =>
    exact .require fun c hc => .require fun t ht => .require fun f hf =>
      .done (by rw [hc, ht, hf]; rfl)
  | unary kind span operator operand =>
    cases kind with
    | unary operation => exact .family rfl (.require fun o ho => .done (by rw [ho]; rfl))
    | _ => exact .mismatch nofun
  | binary kind span left operator right =>
    cases kind with
    | binary operation =>
      exact .family rfl (.require fun l hl => .require fun r hr => .done (by rw [hl, hr]; rfl))
    | _ => exact .mismatch nofun
  | assignment kind span target operator value =>
    cases kind with
    | assignment operation =>
      exact .family rfl (.require fun t ht => .require fun v hv => .done (by rw [ht, hv]; rfl))
    | _ => exact .mismatch nofun
  | lambda span parameters body => exact .require fun b hb => .done (by rw [hb]; rfl)
  | methodReference span target method =>
    exact .require fun t ht => .require fun m hm => .done (by rw [ht, hm]; rfl)
  | primitiveType keyword => exact .done rfl
  | arrayType span element => exact .require fun t ht => .done (by rw [ht]; rfl)
  | parameterizedType span base arguments => exact .require fun b hb => .done (by rw [hb]; rfl)
  -- whether a bound is wanted depends on the kind
  | wildcard kind span bound =>
    cases kind with
    | wildcard w =>
      cases w with
      | unbounded => exact .family rfl (.forbid fun _ => .done rfl)
      | upper => exact .family rfl (.demand fun _ => .done rfl)
      | lower => exact .family rfl (.demand fun _ => .done rfl)
    | _ => exact .mismatch nofun
  | unionType span alternatives => exact .demand fun _ => .done rfl

/-- The constructors of statements. -/
theorem StatementDraft.make_meets (d : StatementDraft) :
    Meets d.kind d.requirements d.make fun s => s.node.draft = .statement d := by
  cases d with
  | empty | breakOut | continueLoop | returnValue => exact .done rfl
  | labeled span label statement =>
    exact .require fun l hl => .require fun s hs => .done (by rw [hl, hs]; rfl)
  | ifElse span condition thenStatement elseStatement =>
    exact .require fun c hc => .require fun t ht => .done (by rw [hc, ht]; rfl)
  | assertion span condition detail => exact .require fun c hc => .done (by rw [hc]; rfl)
  | switch span selector cases => exact .require fun e he => .done (by rw [he]; rfl)
  | whileLoop span condition body =>
    exact .require fun c hc => .require fun b hb => .done (by rw [hc, hb]; rfl)
  | doLoop span body condition =>
    exact .require fun b hb => .require fun c hc => .done (by rw [hb, hc]; rfl)
  | forLoop span initializer condition update body =>
    exact .require fun b hb => .done (by rw [hb]; rfl)
  | forEach span element iterable body =>
    exact .require fun v hv => .require fun i hi => .require fun b hb =>
      .done (by rw [hv, hi, hb]; rfl)
  | throwValue span value => exact .require fun v hv => .done (by rw [hv]; rfl)
  | synchronizedOn span lock block =>
    exact .require fun l hl => .require fun b hb => .done (by rw [hl, hb]; rfl)
  | tryBlock span resources block catches finallyBlock =>
    exact .require fun b hb => .demand fun _ => .done (by rw [hb]; rfl)

/-- **A constructor answers as its requirements say**, and its arguments are read back from what it
makes. -/
theorem Draft.make_meets (d : Draft) :
    Meets d.kind d.requirements d.make fun n => n.draft = d := by
  cases d with
  | anonymousClass | modifiers | caseLabel => exact .done rfl
  | compilationUnit span packageAnnotations packageName imports types =>
    exact .map (.demand fun _ => .done rfl)
  | importDeclaration span isStatic name =>
    exact .map (.require fun n hn => .done (by rw [hn]; rfl))
  -- only a class can have a superclass
  | typeDeclaration kind span modifiers name typeParameters superclass superInterfaces members =>
    cases kind with
    | typeDeclaration typeKind =>
      cases typeKind with
      | classType => exact .map (.family rfl (.require fun n hn => .done (by rw [hn]; rfl)))
      | _ =>
        exact .map (.family rfl (.forbid fun _ => .require fun n hn => .done (by rw [hn]; rfl)))
    | _ => exact .map (.mismatch nofun)
  | enumConstant span modifiers name arguments body =>
    exact .map (.require fun n hn => .done (by rw [hn]; rfl))
  | method kind span modifiers typeParameters returnType name parameters throws body default =>
    cases kind with
    | callable callableKind =>
      cases callableKind with
      | method =>
        exact .map (.family rfl (.demand fun _ => .require fun n hn => .done (by rw [hn]; rfl)))
      | constructor =>
        exact .map (.family rfl (.forbid fun _ => .forbid fun _ => .demand fun _ =>
          .require fun n hn => .done (by rw [hn]; rfl)))
    | _ => exact .map (.mismatch nofun)
  | variableDeclaration span modifiers type name initializer =>
    exact .map (.require fun t ht => .require fun n hn => .done (by rw [ht, hn]; rfl))
  | typeParameter span name bounds =>
    exact .map (.require fun n hn => .done (by rw [hn]; rfl))
  | annotationUse span type arguments =>
    exact .map (.require fun t ht => .done (by rw [ht]; rfl))
  | block kind span body =>
    cases kind with
    | block blockKind => exact .map (.family rfl (.done rfl))
    | _ => exact .map (.mismatch nofun)
  | expressionStatement span expression =>
    exact .map (.require fun e he => .done (by rw [he]; rfl))
  | caseGroup span labels body => exact .map (.demand fun _ => .done rfl)
  | catchClause span parameter block =>
    exact .map (.require fun v hv => .require fun b hb => .done (by rw [hv, hb]; rfl))
  | expression draft =>
    exact .map draft.make_meets
  | statement draft =>
    exact .map draft.make_meets

/-! ## Well-formed nodes -/

namespace Node

/-- The rules that tie several parts of a node together. -/
def Coherent : Node → Prop
  | .compilationUnit u => u.packageName.isSome ∨ u.packageAnnotations = []
  | .typeDeclaration t =>
    (t.kind = .classType ∨ t.superclass = none) ∧
      (t.name = none → t = Checked.anonymousClass t.span t.members)
  | .method m =>
    (m.kind = .constructor → m.returnType = none ∧ m.defaultValue = none ∧ m.body.isSome) ∧
      (m.kind = .method → m.returnType.isSome)
  | .caseGroup g => g.labels ≠ []
  | .expression (.newArray _ elementType dimensions _) => elementType.isSome ∨ dimensions = []
  | .expression (.wildcard kind _ bound) => bound = none ↔ kind = .unbounded
  | .expression (.unionType _ alternatives) => 2 ≤ alternatives.length
  | .statement (.tryBlock _ resources _ catches finallyBlock) =>
    resources ≠ [] ∨ catches ≠ [] ∨ finallyBlock.isSome
  | _ => True

/-- Whether the kind of a node is one of its shape, and its parts go together. Parts that a node of
the shape needs are there by its type. -/
structure WellFormed (n : Node) : Prop where
  family : n.kind.shape = n.shape
  coherent : n.Coherent

/-- A node has a kind of the family of its shape. -/
theorem shape_kind (n : Node) : n.kind.shape = n.shape := by
  cases n with
  | expression e => cases e <;> rfl
  | statement s => cases s <;> rfl
  | _ => rfl

/-- What its constructor makes of the parts of a node is coherent. -/
theorem coherent_of_make {n : Node} (made : n.draft.make = .ok n) : n.Coherent := by
  cases n with
  | compilationUnit u =>
    obtain ⟨_, checked, -⟩ := Checked.map_eq_ok.mp made
    exact (Checked.compilationUnit_eq_ok.mp checked).1
  | typeDeclaration t =>
    obtain ⟨typeKind, span, modifiers, name, typeParameters, superclass, interfaces, members⟩ := t
    cases name with
    -- a declaration without a name is read back as the class of a body
    | none =>
      have same : Checked.anonymousClass span members = _ :=
        Node.typeDeclaration.inj (Except.ok.inj made)
      rw [← same]
      exact ⟨.inl rfl, fun _ => rfl⟩
    | some name =>
      obtain ⟨_, checked, -⟩ := Checked.map_eq_ok.mp made
      obtain ⟨_, family, excluded, -⟩ := Checked.typeDeclaration_eq_ok.mp checked
      cases family
      exact ⟨excluded, nofun⟩
  | method m =>
    obtain ⟨_, checked, -⟩ := Checked.map_eq_ok.mp made
    obtain ⟨callableKind, family, constructor, method, -⟩ := Checked.method_eq_ok.mp checked
    cases family
    exact ⟨constructor, method⟩
  | caseGroup g =>
    obtain ⟨_, checked, -⟩ := Checked.map_eq_ok.mp made
    exact (Checked.caseGroup_eq_ok.mp checked).1
  | expression e =>
    cases e with
    | newArray span elementType dimensions initializers =>
      obtain ⟨_, checked, -⟩ := Checked.map_eq_ok.mp made
      exact (Checked.newArray_eq_ok.mp checked).1
    | wildcard kind span bound =>
      obtain ⟨_, checked, -⟩ := Checked.map_eq_ok.mp made
      obtain ⟨_, family, bounded, -⟩ := Checked.wildcard_eq_ok.mp checked
      cases family
      exact bounded
    | unionType span alternatives =>
      obtain ⟨_, checked, -⟩ := Checked.map_eq_ok.mp made
      exact (Checked.unionType_eq_ok.mp checked).1
    | _ => trivial
  | statement s =>
    cases s with
    | tryBlock span resources body catches finallyBlock =>
      obtain ⟨_, checked, -⟩ := Checked.map_eq_ok.mp made
      obtain ⟨_, -, handled, -⟩ := Checked.tryBlock_eq_ok.mp checked
      exact handled
    | _ => trivial
  | _ => trivial

end Node

/-- What a constructor makes is what it makes of the parts that are read back from it. -/
theorem Draft.make_draft {d : Draft} {n : Node} (made : d.make = .ok n) : n.draft.make = .ok n := by
  rwa [(d.make_meets.forall_of_ok made).2]

/-- All nodes of a tree that is made by constructors are made by constructors. -/
theorem Obtainable.forall_mem_preorder {n : Node} (h : Obtainable n) :
    ∀ m ∈ n.preorder, m.draft.make = .ok m := by
  induction h with
  | make made below ih => exact Node.forall_mem_preorder.mpr ⟨Draft.make_draft made, ih⟩

/-! ## Constructors and trees -/

/-- **Constructors accept exactly the well-formed nodes.** A call succeeds if and only if all its
requirements are met; then its arguments are read back from the node as they were. Otherwise it is
refused at the first requirement, in the order of the constructor, that is not met, and the refusal has
the kind that was passed in. So in a tree that is made by constructors every node meets the requirements
of its own constructor and is well-formed. -/
theorem construction_exact :
    (∀ d : Draft,
      ((∃ n, d.make = .ok n) ↔ ∀ r ∈ d.requirements, r.holds d.kind) ∧
        (∀ n, d.make = .ok n → n.draft = d) ∧
        ∀ broken, d.requirements.find? (fun r => !r.holds d.kind) = some broken →
          d.make = .error (broken.refusal d.kind)) ∧
      ∀ n, Obtainable n → ∀ m ∈ n.preorder,
        (∀ r ∈ m.draft.requirements, r.holds m.draft.kind) ∧ m.WellFormed := by
  refine ⟨fun d => ⟨⟨?_, ?_⟩, ?_, ?_⟩, ?_⟩
  · rintro ⟨n, made⟩
    exact (d.make_meets.forall_of_ok made).1
  · intro met
    obtain ⟨n, made, -⟩ := d.make_meets.exists_of_forall met
    exact ⟨n, made⟩
  · exact fun n made => (d.make_meets.forall_of_ok made).2
  · exact fun broken first => d.make_meets.error_of_find? first
  · intro n obtainable m hm
    have made := obtainable.forall_mem_preorder m hm
    exact ⟨(m.draft.make_meets.forall_of_ok made).1, m.shape_kind, Node.coherent_of_make made⟩

theorem Obtainable.identifier (i : Identifier) : Obtainable i.node :=
  .make (d := i.node.draft) rfl Node.forall_children_identifier

/-- The `T` of `List<? extends T>`. -/
def boundOfList : Expression :=
  .identifier ⟨"T", 15, 16, ⟨0, 15⟩, ⟨0, 16⟩⟩

/-- The type `? extends T` in `List<? extends T>`. -/
def boundedWildcard : Expression :=
  .wildcard .upper ⟨5, 16, ⟨0, 5⟩, ⟨0, 16⟩⟩ (some boundOfList)

/-- The type `List<? extends T>`. -/
def boundedList : Expression :=
  .parameterizedType ⟨0, 17, ⟨0, 0⟩, ⟨0, 17⟩⟩
    (.identifier ⟨"List", 0, 4, ⟨0, 0⟩, ⟨0, 4⟩⟩) [boundedWildcard]

theorem boundedList_obtainable : Obtainable boundedList.node := by
  refine .make (d := boundedList.node.draft) rfl ?_
  refine Node.forall_children_parameterizedType.mpr ⟨.identifier _, ?_⟩
  refine List.forall_mem_singleton.mpr (.make (d := boundedWildcard.node.draft) rfl ?_)
  refine Node.forall_children_wildcard.mpr fun b found => ?_
  cases found
  exact .identifier _

/-- An enum with a superclass and without a name. Two requirements are not met. -/
def namelessEnum : Draft :=
  .typeDeclaration (.typeDeclaration .enumType) ⟨0, 17, ⟨0, 0⟩, ⟨0, 17⟩⟩ none none []
    (some boundedList) [] []

theorem boundedList_wellFormed : Obtainable boundedList.node ∧
    (∀ m ∈ boundedList.node.preorder,
      (∀ r ∈ m.draft.requirements, r.holds m.draft.kind) ∧ m.WellFormed) ∧
    namelessEnum.make = .error (.unexpectedChild (.typeDeclaration .enumType) "superclass") :=
  ⟨boundedList_obtainable, construction_exact.2 _ boundedList_obtainable,
    (construction_exact.1 namelessEnum).2.2 (.excludes true "superclass") rfl⟩

end JavaSyntax
