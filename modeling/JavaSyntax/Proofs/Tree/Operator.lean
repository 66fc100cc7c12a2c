import JavaSyntax.Operator
import JavaSyntax.Tree.Query

/-!
# Operators — what an operator token has to say

The kind of an operation says how its operator is spelled, and the node keeps the token of the operator
as well. Nothing in a constructor compares the two. Here is said when they agree, and that the tables of
operators are read back as they were read: what is found under a spelling has that spelling.

* `UnaryOperation.text_of_ofText?` and so on: the spelling under which an operation is found;
* `Kind.spelling?`: what the operator token of a node of that kind has to say;
* `Node.Spelled`: whether it says so.
-/

namespace JavaSyntax

/-! ## Tables -/

theorem UnaryOperation.text_of_ofText? {text : String} {beforeOperand : Bool}
    {operation : UnaryOperation} (h : ofText? text beforeOperand = some operation) :
    operation.text = text := by
  have same := List.find?_some h
  exact eq_of_beq same

theorem BinaryOperation.text_of_ofText? {text : String} {operation : BinaryOperation}
    (h : ofText? text = some operation) : operation.text = text := by
  have same := List.find?_some h
  exact eq_of_beq same

theorem AssignmentOperation.text_of_ofText? {text : String} {operation : AssignmentOperation}
    (h : ofText? text = some operation) : operation.text = text := by
  have same := List.find?_some h
  exact eq_of_beq same

/-- The side of the operand decides which operation is found: the two postfix ones are found behind
their operand only, and nothing else is found there. -/
theorem UnaryOperation.eq_postfix_iff_of_ofText? {text : String} {beforeOperand : Bool}
    {operation : UnaryOperation} (h : ofText? text beforeOperand = some operation) :
    operation = .postfixIncrement ∨ operation = .postfixDecrement ↔ beforeOperand = false := by
  have found := List.mem_of_find?_eq_some h
  cases beforeOperand with
  | false =>
    have behind : ∀ operation ∈ postfixed,
        operation = .postfixIncrement ∨ operation = .postfixDecrement := by decide
    exact iff_of_true (behind operation found) rfl
  | true =>
    have before : ∀ operation ∈ prefixed,
        ¬ (operation = .postfixIncrement ∨ operation = .postfixDecrement) := by decide
    exact iff_of_false (before operation found) (by decide)

/-! ## Spellings -/

/-- What the operator token of a node of that kind says: the spelling of the operation, or the keyword
of a test. -/
def Kind.spelling? : Kind → Option String
  | .instanceOf => some "instanceof"
  | kind => kind.operatorText?

/-- Operations have a spelling, and it is that of their operator. -/
theorem Kind.exists_spelling {kind : Kind}
    (h : kind.isUnary ∨ kind.isBinary ∨ kind.isAssignment) :
    ∃ spelling, kind.operatorText? = some spelling ∧ kind.spelling? = some spelling := by
  cases kind with
  | unary operation => exact ⟨operation.text, rfl, rfl⟩
  | binary operation => exact ⟨operation.text, rfl, rfl⟩
  | assignment operation => exact ⟨operation.text, rfl, rfl⟩
  | _ => exact absurd h (by simp [isUnary, isBinary, isAssignment])

/-- Whether the operator token of a node, if it has one, says what the kind of the node says. -/
structure Node.Spelled (n : Node) : Prop where
  operation : n.kind.isUnary ∨ n.kind.isBinary ∨ n.kind.isAssignment →
    ∃ e token, n = .expression e ∧ e.operatorToken = .ok token ∧
      n.kind.operatorText? = some token.text
  test : n.kind = .instanceOf →
    ∃ e token, n = .expression e ∧ e.operatorToken = .ok token ∧ token.text = "instanceof"

namespace Node

variable {n : Node} {token : SyntaxToken} {spelling : String}

/-- A node without tokens has no operator. -/
theorem spelling?_eq_none (h : n.tokens = []) : n.kind.spelling? = none := by
  cases n with
  | expression e =>
    cases e with
    | unary | binary | assignment | instanceOf => exact absurd h (List.cons_ne_nil _ _)
    | _ => rfl
  | statement s => cases s <;> rfl
  | _ => rfl

/-- The one token of a node with an operator is its operator token. -/
theorem operatorToken_of_tokens (tokens : n.tokens = [token])
    (h : n.kind.spelling? = some spelling) :
    ∃ e, n = .expression e ∧ e.operatorToken = .ok token := by
  cases n with
  | expression e =>
    refine ⟨e, rfl, ?_⟩
    cases e with
    | unary | binary | assignment | instanceOf =>
      exact congrArg Except.ok (List.singleton_inj.mp tokens)
    | _ => exact absurd h nofun
  | statement s => exact absurd tokens nofun
  | modifiers m => exact absurd h nofun
  | _ => exact absurd tokens nofun

/-- It is enough that the one token of a node with an operator says what the kind says. -/
theorem spelled_of_tokens
    (h : ∀ spelling, n.kind.spelling? = some spelling →
      ∃ token, n.tokens = [token] ∧ token.text = spelling) : n.Spelled where
  operation := by
    intro isOperation
    obtain ⟨spelling, operator, known⟩ := Kind.exists_spelling isOperation
    obtain ⟨token, tokens, reads⟩ := h spelling known
    obtain ⟨e, expression, found⟩ := operatorToken_of_tokens tokens known
    exact ⟨e, token, expression, found, reads ▸ operator⟩
  test := by
    intro kind
    have known : n.kind.spelling? = some "instanceof" := by rw [kind, Kind.spelling?]
    obtain ⟨token, tokens, reads⟩ := h "instanceof" known
    obtain ⟨e, expression, found⟩ := operatorToken_of_tokens tokens known
    exact ⟨e, token, expression, found, reads⟩

end Node

end JavaSyntax
