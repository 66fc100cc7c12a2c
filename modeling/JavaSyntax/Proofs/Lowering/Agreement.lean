import JavaSyntax.Proofs.Lowering.Gives
import JavaSyntax.Proofs.Raw.Nodes

/-!
# Agreement — one construct, lowered in different places

What a raw node is lowered to may depend on where it stands, because several lowerings take the same
nodes: elements between braces stand in a declarator or in an array creation, a block is a statement or
the body of another construct, and a type or a qualified name stands where a type is wanted or where an
expression is. The lowerings of one node agree, in what they give and in why they refuse.

* `run_each_congr`: a list of parts is lowered alike if each part is;
* `lower_innerElements`: elements between braces are lowered alike in both places, however deep;
* `expressionBody_eq_typeBody`, `typeBody_eq_unsupported`: a node either is a type, and then is the same
  as an expression, or is refused as a type;
* `places_agree`: all three pairs of lowerings.
-/

namespace JavaSyntax

namespace Lowering

variable {α β : Type} {below : Answers} {source : String} {limit room : Nat} {raw : RawNode}

/-! ## Elements between braces -/

theorem run_each_congr {f g : β → Lowering α} {parts : List β}
    (same : ∀ part ∈ parts, (f part).run below = (g part).run below) :
    (each f parts).run below = (each g parts).run below := by
  induction parts with
  | nil => rfl
  | cons part rest ih =>
    rw [List.forall_mem_cons] at same
    rw [each, each, run_bind, run_bind, same.1]
    refine congrArg _ (funext fun a => ?_)
    rw [run_bind, run_bind, ih same.2]

/-- An element is lowered alike in both places if braces inside it are. -/
theorem run_arrayElement (same : below .innerElements raw = below .arrayElements raw) :
    (arrayElement raw).run below = (initializer raw).run below := by
  unfold arrayElement initializer
  split
  · rw [run_request, run_request]
    exact same
  · rfl

/-- Both places for braces are one level deeper than what holds them, so the induction is on the levels
that are left. -/
theorem lower_innerElements :
    lower source limit room .innerElements raw = lower source limit room .arrayElements raw := by
  induction room generalizing raw with
  | zero => rfl
  | succ room ih =>
    have elements : (each arrayElement raw.namedChildren).run (lower source limit room) =
        (each initializer raw.namedChildren).run (lower source limit room) :=
      run_each_congr fun part _ => run_arrayElement ih
    rw [lower_succ, lower_succ, body, body, innerElementsBody, arrayElementsBody, run_bind, run_bind,
      elements]

theorem run_listed_arrayElement {list : Option RawNode} :
    (listed arrayElement list).run (lower source limit room) =
      (listed initializer list).run (lower source limit room) := by
  cases list with
  | none => rfl
  | some found => exact run_each_congr fun part _ => run_arrayElement lower_innerElements

/-! ## Types in place of expressions -/

/-- Whether a node is a type or a name that may stand for one. -/
def isType (raw : RawNode) : Bool :=
  typeTags.contains raw.tag || raw.tag == "identifier" || raw.tag == "scoped_identifier"

theorem expressionBody_eq_typeBody (type : isType raw) :
    expressionBody source raw = typeBody source raw := by
  simp only [isType, typeTags, Bool.or_eq_true, List.contains_iff_mem, List.mem_cons, List.not_mem_nil,
    or_false, beq_iff_eq] at type
  rcases type with (type | tag) | tag
  case inl.inr | inr => simp [expressionBody, literalKind?, compoundBody, typeBody, tag]
  case inl.inl =>
    rcases type with tag | tag | tag | tag | tag | tag | tag | tag | tag | tag <;>
      simp [expressionBody, literalKind?, compoundBody, typeTags, tag]

theorem typeBody_eq_unsupported (other : isType raw = false) :
    typeBody source raw = unsupported raw := by
  unfold typeBody
  split
  case h_13 => rfl
  -- in all other branches the tag is one of a type
  all_goals
    rename_i tag
    rw [isType, tag] at other
    exact absurd other (by decide)

/-- A node either is lowered as an expression to what it is as a type, or is refused for the same reason,
or is no type. -/
theorem lower_type_eq : lower source limit room .type raw =
    if room = 0 ∨ isType raw then lower source limit room .expression raw
    else .error raw.unsupported := by
  cases room with
  | zero => rfl
  | succ room =>
    rw [lower_succ, lower_succ, body, body]
    cases type : isType raw with
    | true => rw [if_pos (.inr rfl), expressionBody_eq_typeBody type]
    | false =>
      rw [if_neg (by simp), typeBody_eq_unsupported type]
      rfl

/-! ## Blocks in place of statements -/

theorem run_block :
    (block raw).run below = (below .statements raw).map fun ss => ⟨.plain, raw.span, ss⟩ := by
  rw [block, statements, run_bind, run_request]
  rfl

/-- A block counts as one level, as a statement and as the body of another construct. -/
theorem lower_block_statement (named : raw.isNamed) (tag : raw.tag = "block") :
    lower source limit room .statement raw =
      ((block raw).run (lower source limit room)).map Statement.block := by
  rw [run_block]
  cases room with
  | zero => rfl
  | succ room =>
    have same : statementBody source raw =
        (do return .block ⟨.plain, raw.span, ← statementList source raw⟩) := by
      rw [statementBody, if_pos named]
      simp only [namedStatementBody, tag]
    rw [lower_succ, lower_succ, body, body, same, run_bind]
    cases (statementList source raw).run (lower source limit room) <;> rfl

end Lowering

open Lowering

/-- **Lowerings of one node agree.** Whatever the limit and however deep the node lies: an element of an
array is lowered alike in a creation and in a declarator, with arrays between braces in it at any depth;
a block is lowered as a statement to what it is as the body of a construct; and what is lowered as a type
is lowered as an expression to the same.

That a block is named is no restriction: the grammar has a rule `block` and no token that reads so, and a
node is named exactly if a rule made it. -/
theorem places_agree (source : String) (limit room : Nat) (raw : RawNode) :
    (arrayElement raw).run (lower source limit room) =
        (initializer raw).run (lower source limit room) ∧
      (raw.isNamed → raw.tag = "block" → lower source limit room .statement raw =
        ((block raw).run (lower source limit room)).map Statement.block) ∧
      ∀ e, lower source limit room .type raw = .ok e →
        lower source limit room .expression raw = .ok e := by
  refine ⟨run_arrayElement lower_innerElements, lower_block_statement, fun e given => ?_⟩
  rw [lower_type_eq] at given
  split at given
  · exact given
  · cases given

open RawNode (onLine)

/-- The block of `{ ; }`. -/
def semicolonBlock : RawNode :=
  onLine "block" true none 0 5
    [onLine "\x7b" false none 0 1 [], onLine ";" false none 2 3 [], onLine "\x7d" false none 4 5 []]

/-- The type `a.b[]`. -/
def qualifiedArray : RawNode :=
  onLine "array_type" true none 0 5
    [onLine "scoped_type_identifier" true (some "element") 0 3
      [onLine "type_identifier" true none 0 1 [], onLine "." false none 1 2 [],
       onLine "type_identifier" true none 2 3 []],
     onLine "dimensions" true (some "dimensions") 3 5
      [onLine "[" false none 3 4 [], onLine "]" false none 4 5 []]]

theorem semicolonBlock_agrees : ∃ (b : Block) (type : Expression),
    (block semicolonBlock).run (lower "{ ; }" 64 1) = .ok b ∧ b.body.length = 1 ∧
      lower "{ ; }" 64 1 .statement semicolonBlock = .ok (.block b) ∧
      lower "a.b[]" 64 3 .type qualifiedArray = .ok type ∧
      lower "a.b[]" 64 3 .expression qualifiedArray = .ok type := by
  obtain ⟨b, given, one⟩ : ∃ b : Block,
      (block semicolonBlock).run (lower "{ ; }" 64 1) = .ok b ∧ b.body.length = 1 := ⟨_, rfl, rfl⟩
  obtain ⟨type, lowered⟩ : ∃ type, lower "a.b[]" 64 3 .type qualifiedArray = .ok type := ⟨_, rfl⟩
  refine ⟨b, type, given, one, ?_, lowered, (places_agree "a.b[]" 64 3 qualifiedArray).2.2 type lowered⟩
  rw [(places_agree "{ ; }" 64 1 semicolonBlock).2.1 rfl rfl, given]
  rfl

end JavaSyntax
