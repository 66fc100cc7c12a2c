import JavaSyntax.Proofs.Lowering.Forms.Declaration

/-!
# Forms of statements

* `StatementsForm`, `BlockEntryForm`: what a place for any number of statements is lowered to;
* `CaseGroupsForm`: the groups of a switch, with the labels that are pending;
* `StatementForm`: what a place for one statement is lowered to, one case for each form.

A statement is asked for in two sorts of places. Where any number may stand, one construct can make
several: a declaration makes as many as it has declarators, and a token makes none unless it is a
semicolon. Where exactly one is wanted the same construct is accepted if it makes one, and that case of
`StatementForm` is `sole`. The groups of a switch are the only loop with a state, so `CaseGroupsForm`
follows the recursion over them and carries what is pending.
-/

namespace JavaSyntax

namespace Lowering

variable {source : String} {below : Answers} {raw : RawNode}

/-! ## Places among statements -/

/-- The extent of the call of a constructor, which ends with its arguments. -/
def callSpan (raw : RawNode) : Span :=
  match raw.field? "arguments" with
  | some list => raw.span.through list.span
  | none => raw.span

variable (source below raw) in
/-- What the keyword that calls a constructor is lowered to. -/
inductive ConstructorForm : Expression → Prop where
  /-- `this` or `super` with nothing before it. -/
  | plain {keyword} (absent : raw.field? "object" = none)
      (named : raw.field? "constructor" = some keyword) :
      ConstructorForm (.identifier (identifier source keyword))
  /-- The keyword selected from an outer instance, as in `outer.super(..)`. -/
  | qualified {object keyword}
      (given : Option.Rel (Gives below expression) (raw.field? "object") (some object))
      (named : raw.field? "constructor" = some keyword) :
      ConstructorForm (select source object keyword)

/-- The call of a constructor, which is a statement with the semicolon and a call without it. -/
theorem constructorCall_form {s : ExpressionStatement}
    (h : (constructorCall source raw).run below = .ok s) :
    ∃ callee types values, ConstructorForm source below raw callee ∧
      List.Forall₂ (Gives below typeExpression) (items (raw.field? "type_arguments")) types ∧
      List.Forall₂ (Gives below expression) (items (raw.field? "arguments")) values ∧
      s = ⟨raw.span, .methodInvocation (callSpan raw) callee types values⟩ := by
  unfold constructorCall at h
  simp only [run_bind_eq_ok, run_optional_eq_ok, run_checked_eq_ok, typeArguments, arguments,
    run_listed_eq_ok, run_pure_eq_ok, Checked.methodInvocation_eq_ok] at h
  obtain ⟨object, given, types, typed, values, passed, _, ⟨callee, called, rfl⟩, rfl⟩ := h
  refine ⟨callee, types, values, ?_, typed, passed, rfl⟩
  -- as in a call, the object decides whether there is anything to select the keyword from
  generalize found : raw.field? "object" = part at given
  cases named : raw.field? "constructor" with
  | none =>
    rw [named] at called
    -- without the keyword nothing is called, and the call is refused
    cases object <;> simp at called
  | some keyword =>
    rw [named] at called
    cases given with
    | none =>
      rw [Option.some.injEq] at called
      exact called ▸ .plain found named
    | some given =>
      rw [Option.some.injEq] at called
      exact called ▸ .qualified (found ▸ .some given) named

variable (source below raw) in
/-- What a construct in a place for any number of statements is lowered to. -/
inductive StatementsForm : List Statement → Prop where
  /-- One statement for each declarator. -/
  | declaration {vs} (tag : raw.tag = "local_variable_declaration")
      (given : Gives below (variableDeclarations source) raw vs) :
      StatementsForm (vs.map .variableDeclaration)
  | constructorCall {s} (tag : raw.tag = "explicit_constructor_invocation")
      (given : Gives below (constructorCall source) raw s) : StatementsForm [.expression s]
  /-- A type declared in a block, which has no node beside its own. -/
  | type {declaration} (given : Gives below typeDeclaration raw declaration) :
      StatementsForm [.typeDeclaration declaration]
  /-- Anything else is asked for as a statement of its own. -/
  | statement {s} (given : Gives below statement raw s) : StatementsForm [s]

/-- The tag tells which constructs are statements by themselves; all others are asked for. -/
theorem statementsOf_form {ss : List Statement} (h : (statementsOf source raw).run below = .ok ss) :
    StatementsForm source below raw ss := by
  unfold statementsOf at h
  split at h
  case h_1 tag =>
    simp only [run_bind_eq_ok, run_pure_eq_ok] at h
    obtain ⟨vs, given, rfl⟩ := h
    exact .declaration tag given
  case h_2 tag =>
    simp only [run_bind_eq_ok, run_pure_eq_ok] at h
    obtain ⟨s, given, rfl⟩ := h
    exact .constructorCall tag given
  case h_3 =>
    split at h
    · simp only [run_bind_eq_ok, run_pure_eq_ok] at h
      obtain ⟨declaration, given, rfl⟩ := h
      exact .type given
    · simp only [run_bind_eq_ok, run_pure_eq_ok] at h
      obtain ⟨s, given, rfl⟩ := h
      exact .statement given

variable (source below raw) in
/-- What a child of a block is lowered to. -/
inductive BlockEntryForm : List Statement → Prop where
  | named {ss} (isNamed : raw.isNamed) (form : StatementsForm source below raw ss) :
      BlockEntryForm ss
  /-- A semicolon that belongs to no statement. -/
  | empty (tag : raw.tag = ";") : BlockEntryForm [.empty raw.span]
  /-- Braces and the like. -/
  | token : BlockEntryForm []

/-- A child of a block: named ones are constructs, of the others only semicolons count. -/
theorem blockEntry_form {ss : List Statement} (h : (blockEntry source raw).run below = .ok ss) :
    BlockEntryForm source below raw ss := by
  unfold blockEntry at h
  split at h
  case isTrue isNamed => exact .named isNamed (statementsOf_form h)
  case isFalse =>
    split at h
    case isTrue tag =>
      rw [run_pure_eq_ok] at h
      exact h ▸ .empty (eq_of_beq tag)
    case isFalse =>
      rw [run_pure_eq_ok] at h
      exact h ▸ .token

/-- The statements of a block are those of its children, one child after the other. -/
theorem statementList_form {ss : List Statement} (h : (statementList source raw).run below = .ok ss) :
    ∃ groups, List.Forall₂ (Gives below (blockEntry source)) raw.children groups ∧
      ss = groups.flatten := by
  unfold statementList at h
  simp only [run_gather_eq_ok] at h
  obtain ⟨groups, given, rfl⟩ := h
  exact ⟨groups, given, rfl⟩

/-! ## Parts of statements -/

/-- A condition stands in parentheses, and only what is inside them is lowered. -/
theorem condition_form {result : Option Expression} (h : (condition raw).run below = .ok result) :
    Option.Rel (Gives below expression) ((raw.field? "condition").bind insideParentheses) result :=
  run_optional_eq_ok.mp h

/-- An expression in the head of a loop is a statement with the extent of the expression. -/
theorem bareExpression_form {s : ExpressionStatement} (h : (bareExpression raw).run below = .ok s) :
    ∃ e, Gives below expression raw e ∧ s = ⟨raw.span, e⟩ := by
  unfold bareExpression at h
  simp only [run_bind_eq_ok, run_pure_eq_ok] at h
  obtain ⟨e, given, rfl⟩ := h
  exact ⟨e, given, rfl⟩

variable (source below raw) in
/-- What an initializer of a `for` is lowered to. -/
inductive ForInitializerForm : List Statement → Prop where
  | declaration {vs} (tag : raw.tag = "local_variable_declaration")
      (given : Gives below (variableDeclarations source) raw vs) :
      ForInitializerForm (vs.map .variableDeclaration)
  | expression {s} (given : Gives below bareExpression raw s) : ForInitializerForm [.expression s]

/-- An initializer declares variables or is an expression, by its tag. -/
theorem forInitializer_form {ss : List Statement}
    (h : (forInitializer source raw).run below = .ok ss) : ForInitializerForm source below raw ss := by
  unfold forInitializer at h
  split at h
  case isTrue tag =>
    simp only [run_bind_eq_ok, run_pure_eq_ok] at h
    obtain ⟨vs, given, rfl⟩ := h
    exact .declaration (eq_of_beq tag) given
  case isFalse =>
    simp only [run_bind_eq_ok, run_pure_eq_ok] at h
    obtain ⟨s, given, rfl⟩ := h
    exact .expression given

/-- A resource with a type declares its variable. One without names a variable and is refused. -/
theorem resource_form {v : VariableDeclaration} (h : (resource source raw).run below = .ok v) :
    (declaredVariable source raw (raw.field? "value")).run below = .ok v := by
  unfold resource at h
  split at h
  · exact absurd h run_unsupported_eq_ok.mp
  · exact h

variable (below) in
/-- What the list of types of a caught exception is lowered to. -/
inductive CaughtTypeForm (list : RawNode) : Expression → Prop where
  | union {alternatives} (several : 2 ≤ alternatives.length)
      (given : List.Forall₂ (Gives below typeExpression) list.namedChildren alternatives) :
      CaughtTypeForm list (.unionType list.span alternatives)
  /-- One type is taken as it is, without a union around it. -/
  | single {part type} (only : list.namedChildren = [part]) (given : Gives below typeExpression part type) :
      CaughtTypeForm list type

/-- The types that a clause catches, provided there are any: a list can be there and make nothing. -/
theorem caughtType_form {type : Expression} (h : (caughtType raw).run below = .ok (some type)) :
    ∃ list, raw.childOfTag? "catch_type" = some list ∧ CaughtTypeForm below list type := by
  unfold caughtType at h
  split at h
  case h_1 => exact absurd (run_pure_eq_ok.mp h) nofun
  case h_2 list found =>
    refine ⟨list, found, ?_⟩
    simp only [run_bind_eq_ok, run_each_eq_ok] at h
    obtain ⟨alternatives, given, h⟩ := h
    split at h
    case isTrue =>
      simp only [run_bind_eq_ok, run_checked_eq_ok, run_pure_eq_ok, Checked.unionType_eq_ok,
        Option.some.injEq] at h
      obtain ⟨_, ⟨several, rfl⟩, rfl⟩ := h
      exact .union several given
    -- no more than one alternative is left, and it is the type
    case isFalse few =>
      rw [run_pure_eq_ok] at h
      cases alternatives with
      | nil => cases h
      | cons only more =>
        cases more with
        | nil =>
          cases h
          obtain ⟨part, rest, gives, none, parts⟩ := List.forall₂_cons_right_iff.mp given
          rw [List.forall₂_nil_right_iff] at none
          exact .single (none ▸ parts) gives
        | cons => simp at few

/-- The parameter of a clause. It has no brackets and no value, whatever stands behind its name. -/
theorem catchParameter_form {v : VariableDeclaration}
    (h : (catchParameter source raw).run below = .ok v) :
    ∃ modifiers list caught name,
      Option.Rel (ModifiersForm source below) (raw.childOfTag? "modifiers") modifiers ∧
      raw.childOfTag? "catch_type" = some list ∧ CaughtTypeForm below list caught ∧
      raw.field? "name" = some name ∧
      v = ⟨raw.span, modifiers, caught, identifier source name, none⟩ := by
  unfold catchParameter at h
  simp only [run_bind_eq_ok, run_checked_eq_ok, Checked.variableDeclaration_eq_ok,
    Option.map_eq_some_iff] at h
  obtain ⟨modifiers, listed, _, given, caught, rfl, _, ⟨name, named, rfl⟩, rfl⟩ := h
  obtain ⟨list, found, form⟩ := caughtType_form given
  exact ⟨modifiers, list, caught, name, run_modifiersOf_eq_ok.mp listed, found, form, named, rfl⟩

/-- A clause has its parameter and its block. -/
theorem catchClause_form {c : CatchClause} (h : (catchClause source raw).run below = .ok c) :
    ∃ parameter body,
      Option.Rel (Gives below (catchParameter source)) (raw.childOfTag? "catch_formal_parameter")
        (some parameter) ∧
      Option.Rel (Gives below block) (raw.field? "body") (some body) ∧
      c = ⟨raw.span, parameter, body⟩ := by
  unfold catchClause at h
  simp only [run_bind_eq_ok, run_optional_eq_ok, run_checked_eq_ok, Checked.catchClause_eq_ok] at h
  obtain ⟨_, given, _, bodied, parameter, rfl, body, rfl, rfl⟩ := h
  exact ⟨parameter, body, given, bodied, rfl⟩

/-! ## Switches -/

/-- The values of a label, none of them a pattern or a guard. `default` has no values. -/
theorem caseLabel_form {l : CaseLabel} (h : (caseLabel raw).run below = .ok l) :
    ∃ values, List.Forall₂ (Gives below expression) raw.namedChildren values ∧
      l = ⟨raw.span, values⟩ := by
  unfold caseLabel at h
  simp only [run_bind_eq_ok, run_each_eq_ok, run_pure_eq_ok] at h
  obtain ⟨values, given, rfl⟩ := h
  refine ⟨values, given.imp fun child e h => ?_, rfl⟩
  dsimp only [Gives] at h
  split at h
  -- the other cases of the match are patterns and guards
  case h_5 => exact h
  all_goals exact absurd h run_unsupported_eq_ok.mp

variable (source below raw) in
/-- What a child of a group of labels and statements is lowered to. -/
inductive CaseEntryForm : List CaseLabel × List Statement → Prop where
  /-- A label contributes no statements. -/
  | label {l} (tag : raw.tag = "switch_label") (given : Gives below caseLabel raw l) :
      CaseEntryForm ([l], [])
  /-- Anything else is read as in a block and contributes no labels. -/
  | body {ss} (tag : raw.tag ≠ "switch_label") (form : BlockEntryForm source below raw ss) :
      CaseEntryForm ([], ss)

/-- The tag tells labels from statements. -/
theorem caseEntry_form {entry : List CaseLabel × List Statement}
    (h : (caseEntry source raw).run below = .ok entry) : CaseEntryForm source below raw entry := by
  unfold caseEntry at h
  split at h
  case isTrue tag =>
    simp only [run_bind_eq_ok, run_pure_eq_ok] at h
    obtain ⟨l, given, rfl⟩ := h
    exact .label (eq_of_beq tag) given
  case isFalse tag =>
    simp only [run_bind_eq_ok, run_pure_eq_ok] at h
    obtain ⟨ss, given, rfl⟩ := h
    exact .body (fun same => tag (beq_of_eq same)) (blockEntry_form given)

/-- Labels and statements of a group are collected apart, each in their order. -/
theorem caseGroupBody_form {group : List CaseLabel × List Statement}
    (h : (caseGroupBody source raw).run below = .ok group) :
    ∃ entries, List.Forall₂ (Gives below (caseEntry source)) raw.children entries ∧
      group = (entries.flatMap Prod.fst, entries.flatMap Prod.snd) := by
  unfold caseGroupBody at h
  simp only [run_bind_eq_ok, run_each_eq_ok, run_pure_eq_ok] at h
  obtain ⟨entries, given, rfl⟩ := h
  exact ⟨entries, given, rfl⟩

/-- The extent and the labels of a group together with the labels that are pending before it. -/
def joined (pending : Option (Span × List CaseLabel)) (group : RawNode) (labels : List CaseLabel) :
    Span × List CaseLabel :=
  match pending with
  | some (first, earlier) => (first.through group.span, earlier ++ labels)
  | none => (group.span, labels)

variable (below) in
/-- What the groups of a switch are lowered to. -/
inductive CaseGroupsForm : Option (Span × List CaseLabel) → List RawNode → List CaseGroup → Prop where
  /-- At the end with nothing pending there is nothing more to make. -/
  | done : CaseGroupsForm none [] []
  /-- Labels that are pending at the end make a case without statements. -/
  | last {span labels} (labeled : labels ≠ []) :
      CaseGroupsForm (some (span, labels)) [] [⟨span, labels, []⟩]
  /-- A group without statements is joined to what is pending. -/
  | pending {earlier group labels rest later} (given : Gives below caseGroup group (labels, []))
      (form : CaseGroupsForm (some (joined earlier group labels)) rest later) :
      CaseGroupsForm earlier (group :: rest) later
  /-- A group with statements makes a case, with all labels that are pending, and afterwards nothing is.
  -/
  | closed {earlier group labels body rest later} (given : Gives below caseGroup group (labels, body))
      (filled : body ≠ []) (labeled : (joined earlier group labels).2 ≠ [])
      (form : CaseGroupsForm none rest later) :
      CaseGroupsForm earlier (group :: rest)
        (⟨(joined earlier group labels).1, (joined earlier group labels).2, body⟩ :: later)

/-- The induction is on the groups that are left, for any labels that may be pending. -/
theorem caseGroups_form {pending : Option (Span × List CaseLabel)} {groups : List RawNode}
    {cases : List CaseGroup} (h : (caseGroups pending groups).run below = .ok cases) :
    CaseGroupsForm below pending groups cases := by
  induction groups generalizing pending cases with
  | nil =>
    unfold caseGroups at h
    split at h
    case h_1 =>
      rw [run_pure_eq_ok] at h
      exact h ▸ .done
    case h_2 span labels =>
      simp only [run_bind_eq_ok, run_checked_eq_ok, run_pure_eq_ok, Checked.caseGroup_eq_ok] at h
      obtain ⟨_, ⟨labeled, rfl⟩, rfl⟩ := h
      exact .last labeled
  | cons group rest ih =>
    unfold caseGroups at h
    split at h
    case isTrue => exact absurd h run_unsupported_eq_ok.mp
    case isFalse =>
      rw [run_bind_eq_ok] at h
      obtain ⟨⟨labels, body⟩, given, h⟩ := h
      -- whether labels are pending only says what the group is joined with
      have step : (if body.isEmpty then caseGroups (some (joined pending group labels)) rest
          else do
            let made ← checked (Checked.caseGroup (joined pending group labels).1
              (joined pending group labels).2 body)
            return made :: (← caseGroups none rest)).run below = .ok cases := by
        cases pending <;> exact h
      split at step
      case isTrue none =>
        rw [List.isEmpty_iff] at none
        exact .pending (none ▸ given) (ih step)
      case isFalse filled =>
        simp only [run_bind_eq_ok, run_checked_eq_ok, run_pure_eq_ok, Checked.caseGroup_eq_ok] at step
        obtain ⟨_, ⟨labeled, rfl⟩, later, form, rfl⟩ := step
        exact .closed given (fun none => filled (List.isEmpty_iff.mpr none)) labeled (ih form)

/-- A switch starts with nothing pending. -/
theorem switchStatement_form {s : Statement} (h : (switchStatement raw).run below = .ok s) :
    ∃ selector cases,
      Option.Rel (Gives below expression) ((raw.field? "condition").bind insideParentheses)
        (some selector) ∧
      CaseGroupsForm below none (items (raw.field? "body")) cases ∧
      s = .switch raw.span selector cases := by
  unfold switchStatement at h
  simp only [run_bind_eq_ok, run_checked_eq_ok, Checked.switch_eq_ok] at h
  obtain ⟨_, given, cases, grouped, selector, rfl, rfl⟩ := h
  exact ⟨selector, cases, condition_form given, caseGroups_form grouped, rfl⟩

/-! ## All statements -/

variable (source below raw) in
/-- What a statement in a place for one is lowered to. -/
inductive StatementForm : Statement → Prop where
  /-- The only statement that no named node makes. -/
  | empty : StatementForm (.empty raw.span)
  | block {body} (given : Gives below (statementList source) raw body) :
      StatementForm (.block ⟨.plain, raw.span, body⟩)
  | expression {e}
      (given : Option.Rel (Gives below expression) raw.namedChildren.head? (some e)) :
      StatementForm (.expression ⟨raw.span, e⟩)
  /-- Label and statement are the first two named children. A bare semicolon is none, so it is missed
  there. -/
  | labeled {label s} (named : raw.namedChildren.head? = some label)
      (given : Option.Rel (Gives below statement) raw.namedChildren[1]? (some s)) :
      StatementForm (.labeled raw.span (identifier source label) s)
  /-- Conditions stand in parentheses; the branches are fields, of which the second may be absent. -/
  | ifElse {test whenTrue whenFalse} (tag : raw.tag = "if_statement")
      (tested : Option.Rel (Gives below expression)
        ((raw.field? "condition").bind insideParentheses) (some test))
      (met : Option.Rel (Gives below statement) (raw.field? "consequence") (some whenTrue))
      (unmet : Option.Rel (Gives below statement) (raw.field? "alternative") whenFalse) :
      StatementForm (.ifElse raw.span test whenTrue whenFalse)
  | whileLoop {test body} (tag : raw.tag = "while_statement")
      (tested : Option.Rel (Gives below expression)
        ((raw.field? "condition").bind insideParentheses) (some test))
      (given : Option.Rel (Gives below statement) (raw.field? "body") (some body)) :
      StatementForm (.whileLoop raw.span test body)
  | doLoop {body test} (tag : raw.tag = "do_statement")
      (given : Option.Rel (Gives below statement) (raw.field? "body") (some body))
      (tested : Option.Rel (Gives below expression)
        ((raw.field? "condition").bind insideParentheses) (some test)) :
      StatementForm (.doLoop raw.span body test)
  /-- A declaration among the initializers makes one statement for each variable. -/
  | forLoop {groups test update body} (tag : raw.tag = "for_statement")
      (started : List.Forall₂ (Gives below (forInitializer source)) (raw.fields "init") groups)
      (tested : Option.Rel (Gives below expression) (raw.field? "condition") test)
      (updated : List.Forall₂ (Gives below bareExpression) (raw.fields "update") update)
      (given : Option.Rel (Gives below statement) (raw.field? "body") (some body)) :
      StatementForm (.forLoop raw.span groups.flatten test update body)
  /-- The variable is declared in the loop itself, which is the node of both. -/
  | forEach {element iterable body} (tag : raw.tag = "enhanced_for_statement")
      (declared : (declaredVariable source raw none).run below = .ok element)
      (ranged : Option.Rel (Gives below expression) (raw.field? "value") (some iterable))
      (given : Option.Rel (Gives below statement) (raw.field? "body") (some body)) :
      StatementForm (.forEach raw.span element iterable body)
  | breakOut :
      StatementForm (.breakOut raw.span ((raw.childOfTag? "identifier").map (identifier source)))
  | continueLoop :
      StatementForm (.continueLoop raw.span ((raw.childOfTag? "identifier").map (identifier source)))
  | returnValue {value} (given : Option.Rel (Gives below expression) raw.namedChildren.head? value) :
      StatementForm (.returnValue raw.span value)
  | throwValue {value}
      (given : Option.Rel (Gives below expression) raw.namedChildren.head? (some value)) :
      StatementForm (.throwValue raw.span value)
  /-- The condition and, as the second named child, the detail. -/
  | assertion {test detail}
      (tested : Option.Rel (Gives below expression) raw.namedChildren.head? (some test))
      (given : Option.Rel (Gives below expression) raw.namedChildren[1]? detail) :
      StatementForm (.assertion raw.span test detail)
  | synchronizedOn {lock body} (tag : raw.tag = "synchronized_statement")
      (given : Option.Rel (Gives below expression)
        ((raw.childOfTag? "parenthesized_expression").bind insideParentheses) (some lock))
      (bodied : Option.Rel (Gives below JavaSyntax.Lowering.block) (raw.field? "body") (some body)) :
      StatementForm (.synchronizedOn raw.span lock body)
  /-- With and without resources the parts are found alike; the list of resources makes no node. -/
  | tryBlock {resources body catches finallyBlock}
      (tag : raw.tag = "try_statement" ∨ raw.tag = "try_with_resources_statement")
      (opened : List.Forall₂ (Gives below (resource source))
        (((raw.field? "resources").map fun list => list.childrenOfTag "resource").getD []) resources)
      (bodied : Option.Rel (Gives below JavaSyntax.Lowering.block) (raw.field? "body") (some body))
      (caught : List.Forall₂ (Gives below (catchClause source)) (raw.childrenOfTag "catch_clause")
        catches)
      (closed : Option.Rel (Gives below JavaSyntax.Lowering.block)
        ((raw.childOfTag? "finally_clause").bind fun clause => clause.childOfTag? "block")
        finallyBlock) :
      StatementForm (.tryBlock raw.span resources body catches finallyBlock)
  | switch {selector cases} (tag : raw.tag = "switch_expression")
      (given : Option.Rel (Gives below expression)
        ((raw.field? "condition").bind insideParentheses) (some selector))
      (grouped : CaseGroupsForm below none (items (raw.field? "body")) cases) :
      StatementForm (.switch raw.span selector cases)
  /-- A construct that may make several statements and makes one. -/
  | sole {s} (form : StatementsForm source below raw [s]) : StatementForm s

section

variable {s : Statement}

/-- A loop with a head of three parts. Initializers are collected, for a declaration makes several. -/
theorem forLoop_form (tag : raw.tag = "for_statement") (h : (forLoop source raw).run below = .ok s) :
    StatementForm source below raw s := by
  unfold forLoop at h
  simp only [run_bind_eq_ok, run_optional_eq_ok, run_each_eq_ok, run_gather_eq_ok, run_checked_eq_ok,
    Checked.forLoop_eq_ok] at h
  obtain ⟨_, ⟨groups, started, rfl⟩, test, tested, update, updated, _, given, body, rfl, rfl⟩ := h
  exact .forLoop tag started tested updated given

/-- A loop over elements. -/
theorem forEachLoop_form (tag : raw.tag = "enhanced_for_statement")
    (h : (forEachLoop source raw).run below = .ok s) : StatementForm source below raw s := by
  unfold forEachLoop at h
  simp only [run_bind_eq_ok, run_optional_eq_ok, run_checked_eq_ok, Checked.forEach_eq_ok] at h
  obtain ⟨_, declared, _, ranged, _, given, element, ⟨⟩, iterable, rfl, body, rfl, rfl⟩ := h
  exact .forEach tag declared ranged given

/-- A block with what belongs to it. -/
theorem tryBlock_form (tag : raw.tag = "try_statement" ∨ raw.tag = "try_with_resources_statement")
    (h : (tryBlock source raw).run below = .ok s) : StatementForm source below raw s := by
  unfold tryBlock at h
  simp only [run_bind_eq_ok, run_optional_eq_ok, run_each_eq_ok, run_checked_eq_ok,
    Checked.tryBlock_eq_ok] at h
  obtain ⟨resources, opened, _, bodied, catches, caught, finallyBlock, closed, body, rfl, -, rfl⟩ := h
  exact .tryBlock tag opened bodied caught closed

/-- Of what makes no statement or several nothing is taken. -/
theorem soleStatement_form (h : (soleStatement raw (statementsOf source raw)).run below = .ok s) :
    StatementForm source below raw s := by
  unfold soleStatement at h
  simp only [run_bind_eq_ok] at h
  obtain ⟨made, given, h⟩ := h
  split at h
  · rw [run_pure_eq_ok] at h
    exact h ▸ .sole (statementsOf_form given)
  · exact absurd h run_unsupported_eq_ok.mp

/-- The tag decides, and for a tag that is none of a statement the node may be a type. -/
theorem namedStatementBody_form (h : (namedStatementBody source raw).run below = .ok s) :
    StatementForm source below raw s := by
  unfold namedStatementBody at h
  split at h
  case h_1 =>
    -- a block
    simp only [run_bind_eq_ok, run_pure_eq_ok] at h
    obtain ⟨body, given, rfl⟩ := h
    exact .block given
  case h_2 =>
    -- an expression statement
    simp only [run_bind_eq_ok, run_optional_eq_ok, run_checked_eq_ok, run_pure_eq_ok,
      Checked.expressionStatement_eq_ok] at h
    obtain ⟨_, given, _, ⟨e, rfl, rfl⟩, rfl⟩ := h
    exact .expression given
  case h_3 =>
    -- a labeled statement
    simp only [run_bind_eq_ok, run_optional_eq_ok, run_checked_eq_ok, Checked.labeled_eq_ok,
      Option.map_eq_some_iff] at h
    obtain ⟨_, given, _, ⟨label, named, rfl⟩, labeled, rfl, rfl⟩ := h
    exact .labeled named given
  case h_4 tag =>
    -- `if`
    simp only [run_bind_eq_ok, run_optional_eq_ok, run_checked_eq_ok, Checked.ifElse_eq_ok] at h
    obtain ⟨_, tested, _, met, whenFalse, unmet, test, rfl, whenTrue, rfl, rfl⟩ := h
    exact .ifElse tag (condition_form tested) met unmet
  case h_5 tag =>
    -- `while`
    simp only [run_bind_eq_ok, run_optional_eq_ok, run_checked_eq_ok, Checked.whileLoop_eq_ok] at h
    obtain ⟨_, tested, _, given, test, rfl, body, rfl, rfl⟩ := h
    exact .whileLoop tag (condition_form tested) given
  case h_6 tag =>
    -- `do`
    simp only [run_bind_eq_ok, run_optional_eq_ok, run_checked_eq_ok, Checked.doLoop_eq_ok] at h
    obtain ⟨_, given, _, tested, body, rfl, test, rfl, rfl⟩ := h
    exact .doLoop tag given (condition_form tested)
  case h_7 tag => exact forLoop_form tag h
  case h_8 tag => exact forEachLoop_form tag h
  case h_9 =>
    rw [run_pure_eq_ok] at h
    exact h ▸ .breakOut
  case h_10 =>
    rw [run_pure_eq_ok] at h
    exact h ▸ .continueLoop
  case h_11 =>
    -- `return`
    simp only [run_bind_eq_ok, run_optional_eq_ok, run_pure_eq_ok] at h
    obtain ⟨value, given, rfl⟩ := h
    exact .returnValue given
  case h_12 =>
    -- `throw`
    simp only [run_bind_eq_ok, run_optional_eq_ok, run_checked_eq_ok, Checked.throwValue_eq_ok] at h
    obtain ⟨_, given, value, rfl, rfl⟩ := h
    exact .throwValue given
  case h_13 =>
    -- `assert`
    simp only [run_bind_eq_ok, run_optional_eq_ok, run_checked_eq_ok, Checked.assertion_eq_ok] at h
    obtain ⟨_, tested, detail, given, test, rfl, rfl⟩ := h
    exact .assertion tested given
  case h_14 tag =>
    -- `synchronized`
    simp only [run_bind_eq_ok, run_optional_eq_ok, run_checked_eq_ok,
      Checked.synchronizedOn_eq_ok] at h
    obtain ⟨_, given, _, bodied, lock, rfl, body, rfl, rfl⟩ := h
    exact .synchronizedOn tag given bodied
  case h_15 tag => exact tryBlock_form (.inl tag) h
  case h_16 tag => exact tryBlock_form (.inr tag) h
  case h_17 tag =>
    obtain ⟨selector, cases, given, grouped, rfl⟩ := switchStatement_form h
    exact .switch tag given grouped
  case h_18 | h_19 => exact soleStatement_form h
  case h_20 =>
    -- a type declaration
    split at h
    · simp only [run_bind_eq_ok, run_pure_eq_ok] at h
      obtain ⟨declaration, given, rfl⟩ := h
      exact .sole (.type given)
    · exact absurd h run_unsupported_eq_ok.mp

/-- **What a statement is lowered to.** An unnamed node is one only if it is a semicolon. -/
theorem statementBody_form (h : (statementBody source raw).run below = .ok s) :
    StatementForm source below raw s := by
  unfold statementBody at h
  split at h
  · exact namedStatementBody_form h
  · split at h
    · rw [run_pure_eq_ok] at h
      exact h ▸ .empty
    · exact absurd h run_unsupported_eq_ok.mp

end

end Lowering

end JavaSyntax
