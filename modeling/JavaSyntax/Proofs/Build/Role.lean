import JavaSyntax.Proofs.Build.Entry
import JavaSyntax.Proofs.Lowering.Role.Statement

/-!
# Roles of what is built — every node stands where its kind may stand

The constructors of nodes do not look at the kinds of the parts that they are given, and a raw tree
may put anything anywhere. What is built has its types, blocks, classes and unions in their places
all the same, since each part is lowered by the construct that its slot asks for, and what a
construct is lowered to suits its role.

* `suits_lower`: whatever a construct is lowered to suits the role of the construct;
* `Entry.suits_of_build`: the trees that are built suit an ordinary role;
* `inRole_of_build`: every node of a built tree is in its role.
-/

namespace JavaSyntax

open Node

/-- **What a construct is lowered to suits the role of the construct**, however deep it lies. -/
theorem suits_lower {source : String} {limit room : Nat} {construct : Construct} {raw : RawNode}
    {result : construct.Result} (made : lower source limit room construct raw = .ok result) :
    ∀ n ∈ construct.nodes result, n.Suits construct.role :=
  lower_induction
    (motive := fun construct _ result => ∀ n ∈ construct.nodes result, n.Suits construct.role)
    (fun _ answers construct _ _ made =>
      Lowering.suits_body (fun _ construct p _ result => answers construct p result) construct made)
    made

theorem suited_lower (source : String) (limit room : Nat) :
    Answers.Suited (lower source limit room) :=
  fun _ _ _ _ _ made => suits_lower made

/-! ## Whole sources -/

namespace Lowering

variable {raw : RawNode} {source : String} {below : Answers} (g : below.Suited)

include g

theorem suits_importDeclaration {i : Import}
    (made : Gives below (importDeclaration source) raw i) :
    (Node.importDeclaration i).Suits .ordinary := by
  obtain ⟨name, form, rfl⟩ := importDeclaration_form made
  refine .plain (fun _ => rfl) trivial (forall_children_importDeclaration.mpr ?_)
  cases form with
  | plain given => exact g.expressionPart given _ rfl
  | onDemand given star => exact suits_select Kind.noConfusion (g.expressionPart given _ rfl)

theorem suits_unitParts {parts : List UnitPart} (made : Gives below (unitParts source) raw parts) :
    ∀ part ∈ parts, part.node.Suits .ordinary := by
  cases unitParts_form made with
  | package tag given =>
    refine of_forall₂ given fun p _ part gives => ?_
    cases packagePart_form gives with
    | annotationUse isUse given => exact g.annotationUse given
    | name notUse given => exact g.expression given
  | importDeclaration tag given =>
    rw [List.forall_mem_singleton]
    exact suits_importDeclaration g given
  | type isType given =>
    rw [List.forall_mem_singleton]
    exact g.typeDeclaration given

theorem suits_compilationUnit {unit : CompilationUnit}
    (made : (compilationUnit source raw).run below = .ok unit) :
    (Node.compilationUnit unit).Suits .ordinary := by
  obtain ⟨groups, given, rfl⟩ := compilationUnit_form made
  exact .plain (fun _ => rfl) trivial (forall_children_unit
    (of_forall₂_flatten given fun _ _ _ gives => suits_unitParts g gives))

end Lowering

/-- The trees that are built suit an ordinary role. -/
theorem Entry.suits_of_build {entry : Entry} {config : BuildConfig} {parsed : ParseResult}
    {tree : entry.Result} (built : entry.build config parsed = .ok tree) :
    ∀ root ∈ entry.nodes tree, root.Suits .ordinary := by
  rw [Entry.build_of_intact (Entry.intact_of_build built)] at built
  have g := suited_lower parsed.source config.maxDepth config.maxDepth
  cases entry with
  | compilationUnit =>
    rw [nodes, List.forall_mem_singleton]
    exact Lowering.suits_compilationUnit g built
  | expression =>
    obtain ⟨inner, -, given⟩ := Lowering.soleExpression_inner built
    rw [nodes, List.forall_mem_singleton]
    exact g.expression given
  | statements =>
    rw [nodes, List.forall_mem_map]
    exact Lowering.suits_statementList g built

/-- **Every node of a built tree is in its role.** Wherever a node stands in a tree that is built,
from whatever raw tree: a block is an initializer exactly if it is a member of a type; a class has
no name exactly if it is the body of an instance creation or enum constant; a call selects an
identifier or a member, so that it has a name; a `for` starts with variables and expressions; what
stands in a slot for a type is a name or a type; and a union stands nowhere but as the type of the
parameter of a `catch`. -/
theorem inRole_of_build {entry : Entry} {config : BuildConfig} {parsed : ParseResult}
    {tree : entry.Result} (built : entry.build config parsed = .ok tree) :
    ∀ root ∈ entry.nodes tree,
      (∀ n ∈ root.preorder, ∃ above, root.Stands above n) ∧
        ∀ above n, root.Stands above n → n.InRole above := by
  intro root hr
  have suits := Entry.suits_of_build built root hr
  exact ⟨fun n hn => exists_stands hn, fun above n stands => suits.inRole stands⟩

open RawNode (onLine) in
/-- The raw tree of `try {} catch (A | B e) {}`. -/
def multiCatch : ParseResult where
  source := "try {} catch (A | B e) {}"
  root := onLine "program" true none 0 25
    [onLine "try_statement" true none 0 25
      [onLine "try" false none 0 3 [], onLine "block" true (some "body") 4 6 [],
       onLine "catch_clause" true none 7 25
        [onLine "catch" false none 7 12 [], onLine "(" false none 13 14 [],
         onLine "catch_formal_parameter" true none 14 21
          [onLine "catch_type" true none 14 19
            [onLine "type_identifier" true none 14 15 [], onLine "|" false none 16 17 [],
             onLine "type_identifier" true none 18 19 []],
           onLine "identifier" true (some "name") 20 21 []],
         onLine ")" false none 21 22 [], onLine "block" true (some "body") 23 25 []]]]

/-- The slots in which the type of a caught exception stands, from its variable up to the `try`. -/
def caughtSeats (tried : Node) (clause : CatchClause) : List Seat :=
  [⟨.variableDeclaration clause.parameter, "var_type"⟩, ⟨.catchClause clause, "parameter"⟩,
    ⟨tried, "catches"⟩]

/-- The union of the two types stands as the type of the parameter, and is in its role there. -/
theorem multiCatch_inRole : ∃ tried clause,
    Entry.statements.build ⟨3, true⟩ multiCatch = .ok [tried] ∧
      clause.parameter.type.node.kind = .unionType ∧
      tried.node.Stands (caughtSeats tried.node clause) clause.parameter.type.node ∧
      clause.parameter.type.node.InRole (caughtSeats tried.node clause) := by
  obtain ⟨span, block, clause, built, union⟩ : ∃ span block clause,
      Entry.statements.build ⟨3, true⟩ multiCatch = .ok [.tryBlock span [] block [clause] none] ∧
        clause.parameter.type.node.kind = .unionType :=
    ⟨_, _, _, (Entry.build_of_intact rfl).trans rfl, rfl⟩
  have caught : (Statement.tryBlock span [] block [clause] none).node.Stands _
      (.catchClause clause) :=
    .inner .root (List.mem_of_getElem? (i := 2) rfl) List.mem_cons_self
  have declared := caught.inner List.mem_cons_self List.mem_cons_self
  have type := declared.inner (List.mem_of_getElem? (i := 1) rfl) List.mem_cons_self
  exact ⟨_, clause, built, union, type, (inRole_of_build built _ List.mem_cons_self).2 _ _ type⟩

end JavaSyntax
