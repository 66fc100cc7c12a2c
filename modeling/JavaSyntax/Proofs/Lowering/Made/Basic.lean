import JavaSyntax.Proofs.Lowering.Forms.Entry
import JavaSyntax.Proofs.Lowering.Invariant
import JavaSyntax.Proofs.Raw.Order
import JavaSyntax.Proofs.Tree.Operator

/-!
# Made from — which raw nodes a typed node is made from

A typed node is made from one raw node, or from a stretch of them: a selection reaches from what it
selects from to the name, a variable from its declaration to its declarator. `Made` says from which
raw nodes, in how many layers, and what the children are made from in turn. It says nothing of extents,
which a raw tree may give as it likes; what follows for extents in order, and for the height of a tree,
is proved from it by induction.

* `Made`: the ways to make a node, one case for each;
* `Made.foldl_arrayOf`: array types around a type, one for each pair of brackets;
* `RawNode.Narrow`: how many layers the nodes in one place can make;
* `Grounded`: whether all that a construct asks for is made from the nodes that it asks about.

Two things are counted or ordered in it, and each is used by a theorem of its own. The number of layers
bounds the height of what is built (`JavaSyntax.Proofs.Build.Height`); the order of `first` and `last`
gives that extents nest (`JavaSyntax.Proofs.Build.Extent`). The flag for exactness is needed for the
second alone. A node that is put together starts where its first part starts, so the first part has to
start where its raw node does; a node that is a child somewhere only has to lie within its parent.
-/

namespace JavaSyntax

/-- Whether a node is a selection. -/
def Node.isSelection : Node → Bool
  | .expression (.memberSelect ..) => true
  | _ => false

/-- Whether a raw node spells an operator: by its text, or by its tag if it is a token of the
grammar. -/
def RawNode.Spells (source spelling : String) (r : RawNode) : Prop :=
  r.text source = spelling ∨ r.isNamed = false ∧ r.tag = spelling

namespace RawNode

variable {source spelling : String} {raw token : RawNode} {kind : Kind}

/-- A part in whose text the operation was found. -/
theorem spells_of_text (known : kind.spelling? = some spelling) (h : spelling = token.text source) :
    ∀ spelling, kind.spelling? = some spelling → token.Spells source spelling := by
  intro other same
  rw [known, Option.some.injEq] at same
  exact .inl (h.symm.trans same)

/-- A token that was found under the spelling. -/
theorem spells_of_findToken? (known : kind.spelling? = some spelling)
    (h : raw.findToken? spelling = some token) :
    ∀ spelling, kind.spelling? = some spelling → token.Spells source spelling := by
  intro other same
  rw [known, Option.some.injEq] at same
  have unnamed := (List.mem_filter.mp (mem_tokens_of_findToken? h)).2
  have tag := List.find?_some h
  rw [Bool.not_eq_true'] at unnamed
  exact .inr ⟨unnamed, (eq_of_beq tag).trans same⟩

end RawNode

/-- Whether the operator of a node, if it has one, is the token of a raw node that spells it. -/
def Node.Operated (root : RawNode) (source : String) (n : Node) : Prop :=
  ∀ spelling, n.kind.spelling? = some spelling →
    ∃ q ∈ root.nodes, n.tokens = [q.token source] ∧ q.Spells source spelling

open Lowering

variable (root : RawNode) (source : String) in
/-- Whether a node is made, in at most so many layers, from the nodes of `root` from `first` through
`last`. If it is exact, it starts where `first` does, unless that begins with annotations. -/
inductive Made : (exact : Bool) → (layers : Nat) → (first last : RawNode) → Node → Prop where
  /-- A node that reaches from `first` to `last`, with its children in between. -/
  | node {l m first last n} (fewer : l < m) (opens : root.StartsBy first last)
      (span : n.span = first.span.through last.span) (plain : n.isSelection = false)
      (tokens : ∀ t ∈ n.tokens, ∃ q ∈ root.nodes, t = q.token source)
      (operated : n.Operated root source)
      (children : ∀ c ∈ n.children, Made false l first last c) : Made true m first last n
  /-- A selection that a raw node is. -/
  | selection {l m raw first last scope name} (fewer : l < m) (here : raw ∈ root.nodes)
      (before : raw.qualifier? = some first) (after : raw.selected? = some name)
      (inside : last ∈ raw.nodes) (qualifier : Made true l first last (Expression.node scope)) :
      Made true m raw raw (Expression.memberSelect raw.span scope (identifier source name)).node
  /-- A selection that is put together. -/
  | select {l m first last scope name} (fewer : l < m) (order : root.Before last name)
      (qualifier : Made true l first last (Expression.node scope)) :
      Made true m first name (select source scope name).node
  | arrayOf {l m first last element closing} (fewer : l < m) (order : root.Before last closing)
      (inner : Made true l first last (Expression.node element)) :
      Made true m first closing (arrayOf element closing).node
  /-- What starts with the part that a node starts with is made from that node. -/
  | led {l raw first last n} (here : raw ∈ root.nodes) (starts : raw.lead? = some first)
      (inside : last ∈ raw.nodes) (made : Made true l first last n) : Made true l raw raw n
  /-- A type without its annotations. -/
  | annotated {l raw inner n} (here : raw ∈ root.nodes) (tag : raw.tag = "annotated_type")
      (inside : inner ∈ raw.nodes) (made : Made true l inner inner n) : Made true l raw raw n
  | wider {exact l first last first' last' n} (starts : root.StartsBy first' first)
      (stops : root.StopsBy last last') (made : Made exact l first last n) :
      Made false l first' last' n

namespace Made

variable {root raw first last q : RawNode} {source : String} {exact : Bool} {l m : Nat} {n : Node}

/-- Layers are an upper bound, so there may be more of them. -/
theorem mono (h : Made root source exact l first last n) (hl : l ≤ m) :
    Made root source exact m first last n := by
  induction h generalizing m with
  | node fewer opens span plain tokens operated children ih =>
    exact .node (Nat.lt_of_lt_of_le fewer hl) opens span plain tokens operated children
  | selection fewer here before after inside qualifier ih =>
    exact .selection (Nat.lt_of_lt_of_le fewer hl) here before after inside qualifier
  | select fewer order qualifier ih => exact .select (Nat.lt_of_lt_of_le fewer hl) order qualifier
  | arrayOf fewer order inner ih => exact .arrayOf (Nat.lt_of_lt_of_le fewer hl) order inner
  | led here starts inside made ih => exact .led here starts inside (ih hl)
  | annotated here tag inside made ih => exact .annotated here tag inside (ih hl)
  | wider starts stops made ih => exact .wider starts stops (ih hl)

/-- Nothing is made in no layers, which is why a leaf takes one. -/
theorem pos (h : Made root source exact l first last n) : 0 < l := by
  induction h with
  | node fewer | selection fewer | select fewer | arrayOf fewer => exact Nat.zero_lt_of_lt fewer
  | led here starts inside made ih => exact ih
  | annotated here tag inside made ih => exact ih
  | wider starts stops made ih => exact ih

/-- What is made from nodes inside a node is made from that node, if not exactly. -/
theorem inside (h : Made root source exact l first last n) (here : raw ∈ root.nodes)
    (hf : first ∈ raw.nodes) (hl : last ∈ raw.nodes) : Made root source false l raw raw n :=
  .wider (.inl ⟨here, hf⟩) (.inl ⟨here, hl⟩) h

/-- A node without tokens that has the extent of a raw node. -/
theorem whole (here : raw ∈ root.nodes) (fewer : l < m) (span : n.span = raw.span)
    (plain : n.isSelection = false) (tokens : n.tokens = [])
    (children : ∀ c ∈ n.children, Made root source false l raw raw c) :
    Made root source true m raw raw n := by
  refine .node fewer (.inl ⟨here, raw.mem_nodes_self⟩) span plain ?_ ?_ children
  · rw [tokens]
    exact fun t ht => absurd ht List.not_mem_nil
  · rw [Node.Operated, Node.spelling?_eq_none tokens]
    exact nofun

/-- A name is a leaf with the one token that its raw node makes. -/
theorem identifier (here : raw ∈ root.nodes) (hm : 0 < m) :
    Made root source true m raw raw (identifier source raw).node := by
  refine .node hm (.inl ⟨here, raw.mem_nodes_self⟩) rfl rfl ?_ nofun Node.forall_children_identifier
  intro t ht
  rw [List.mem_singleton.mp ht]
  exact ⟨raw, here, rfl⟩

/-- Array types around a type, one for each of the closing brackets that follow it. -/
theorem foldl_arrayOf {element : Expression} {closings : List RawNode}
    (h : Made root source true l first last element.node)
    (order : (last :: closings).Pairwise root.Before) :
    ∃ stop ∈ last :: closings, Made root source true (l + closings.length) first stop
      (closings.foldl Lowering.arrayOf element).node := by
  -- the innermost array type is for the first bracket, so the element grows along the list
  induction closings generalizing l last element with
  | nil => exact ⟨last, List.mem_cons_self, h⟩
  | cons closing rest ih =>
    rw [List.pairwise_cons] at order
    obtain ⟨stop, found, made⟩ :=
      ih (.arrayOf (Nat.lt_succ_self l) (order.1 closing List.mem_cons_self) h) order.2
    rw [List.length_cons, List.foldl_cons, ← Nat.succ_add_eq_add_succ]
    exact ⟨stop, List.mem_cons_of_mem last found, made⟩

end Made

/-! ## Brackets -/

namespace Lowering

variable {root t c : RawNode} {dimensions : Option RawNode}

/-- Closing brackets are found by filters only, so they keep the order of the parts. -/
theorem closingBrackets_sublist_parts (dimensions : RawNode) :
    (closingBrackets dimensions).Sublist dimensions.parts :=
  List.filter_sublist.trans (List.filter_sublist.trans List.filter_sublist)

/-- Where there are brackets there is a list of dimensions that holds them. -/
theorem exists_of_mem_brackets (h : c ∈ brackets dimensions) :
    ∃ d, dimensions = some d ∧ c ∈ d.nodes := by
  cases dimensions with
  | none => exact absurd h List.not_mem_nil
  | some d => exact ⟨d, rfl, d.parts_subset_nodes ((closingBrackets_sublist_parts d).subset h)⟩

/-- The closing brackets of a list of pairs come one after the other. -/
theorem pairwise_before_brackets (here : ∀ d, dimensions = some d → d ∈ root.nodes) :
    (brackets dimensions).Pairwise root.Before := by
  cases dimensions with
  | none => exact .nil
  | some d => exact RawNode.pairwise_before_of_sublist (here d rfl) (closingBrackets_sublist_parts d)

/-- They come after what stands before the list. -/
theorem pairwise_before_cons_brackets (order : ∀ d, dimensions = some d → root.Before t d) :
    (t :: brackets dimensions).Pairwise root.Before := by
  rw [List.pairwise_cons]
  refine ⟨fun c hc => ?_, pairwise_before_brackets fun d found => (order d found).mem_right⟩
  obtain ⟨d, found, inner⟩ := exists_of_mem_brackets hc
  exact (order d found).inside t.mem_nodes_self inner

end Lowering

/-! ## Layers in one place -/

namespace RawNode

mutual

/-- How many pairs of an annotation stand in one another as values, from a node on. -/
def pairDepth : RawNode → Nat
  | node label parts => if label.tag = "element_value_pair" then valueDepth parts + 1 else 0

/-- How many pairs stand in one another in the part that is held as the value. -/
def valueDepth : List RawNode → Nat
  | [] => 0
  | part :: rest => if part.label.field == some "value" then pairDepth part else valueDepth rest

end

/-- The value of a pair is looked up by its field name, like any other part. -/
theorem valueDepth_eq (parts : List RawNode) : valueDepth parts =
    ((parts.find? fun c => c.label.field == some "value").map pairDepth).getD 0 := by
  induction parts with
  | nil => rfl
  | cons part rest ih =>
    unfold valueDepth
    rw [List.find?_cons]
    split
    case isTrue held =>
      rw [held]
      rfl
    case isFalse held =>
      rw [Bool.not_eq_true] at held
      rw [held]
      exact ih

/-- `pairDepth` without the mutual recursion: only the value of a pair counts. -/
theorem pairDepth_eq (r : RawNode) : r.pairDepth =
    if r.tag = "element_value_pair" then ((r.field? "value").map pairDepth).getD 0 + 1 else 0 := by
  obtain ⟨label, parts⟩ := r
  rw [pairDepth, valueDepth_eq]
  rfl

/-- A value lies one pair less deep than the pair that holds it. -/
theorem pairDepth_of_value {r v : RawNode} (tag : r.tag = "element_value_pair")
    (h : r.field? "value" = some v) : r.pairDepth = v.pairDepth + 1 := by
  rw [pairDepth_eq, if_pos tag, h]
  rfl

/-- Pairs in one another are nodes in one another, so there are no more of them than nodes. -/
theorem pairDepth_le_length (r : RawNode) : r.pairDepth ≤ r.nodes.length := by
  induction r using inductionOnParts with
  | node r ih =>
    have := r.length_nodes_pos
    rw [pairDepth_eq]
    split
    · cases found : r.field? "value" with
      | none => exact this
      | some v =>
        -- the value is a part of the pair and so has fewer nodes
        have held := mem_parts_of_field? found
        exact Nat.lt_of_le_of_lt (ih v held) (length_nodes_lt_of_part held)
    · exact Nat.zero_le _

/-- Whether the typed nodes that one raw node makes stay within a number of layers that depends on
`k`: no more than `k` closing brackets stand in one place, and no more than `k` pairs of an annotation
in one another. The grammar has pairs in no other pair. -/
def Narrow (k : Nat) (raw : RawNode) : Prop :=
  ∀ r ∈ raw.nodes, (Lowering.closingBrackets r).length ≤ k ∧ r.pairDepth ≤ k

/-- What holds in a whole tree holds in each part of it. -/
theorem Narrow.of_mem {k : Nat} {raw p : RawNode} (h : raw.Narrow k) (hp : p ∈ raw.nodes) :
    p.Narrow k :=
  fun r hr => h r (mem_nodes_trans hp hr)

/-- Every raw tree has its number. -/
theorem narrow_length (raw : RawNode) : raw.Narrow raw.nodes.length := by
  intro r hr
  have whole := length_nodes_le_of_mem hr
  refine ⟨Nat.le_trans ?_ whole, Nat.le_trans r.pairDepth_le_length whole⟩
  exact Nat.le_trans (Lowering.closingBrackets_sublist_parts r).length_le r.length_parts_le

end RawNode

/-! ## Requests -/

/-- Whether all that a construct is lowered to is made from its node exactly. -/
def Construct.isExact : Construct → Bool
  | .expression | .type => true
  | _ => false

/-- Whether a node lies in `root`, and all requests for nodes of it are answered with what is made
from them in at most `h` layers. -/
structure Grounded (root : RawNode) (source : String) (h : Nat) (below : Answers) (raw : RawNode) :
    Prop where
  here : raw ∈ root.nodes
  asked : below.Satisfy raw fun construct p n => Made root source construct.isExact h p p n

namespace Grounded

variable {root raw p : RawNode} {source : String} {h m : Nat} {below : Answers}
  (g : Grounded root source h below raw)

include g

/-- Requests for nodes inside a node are requests for nodes inside whatever holds it. -/
theorem of_mem (hp : p ∈ raw.nodes) : Grounded root source h below p :=
  ⟨RawNode.mem_nodes_trans g.here hp, g.asked.of_mem hp⟩

/-- What is made from a node inside a node is made from that node, if not exactly. -/
theorem inside {exact : Bool} {n : Node} (hp : p ∈ raw.nodes)
    (made : Made root source exact m p p n) : Made root source false m raw raw n :=
  made.inside g.here hp hp

/-- A node without tokens that has the extent of the raw node. -/
theorem whole {l : Nat} {n : Node} (span : n.span = raw.span) (plain : n.isSelection = false)
    (tokens : n.tokens = []) (children : ∀ c ∈ n.children, Made root source false l raw raw c)
    (fewer : l < m) : Made root source true m raw raw n :=
  .whole g.here fewer span plain tokens children

/-- An operation, which keeps the token of a part: if it has an operator, the part spells it. -/
theorem operation {l : Nat} {n : Node} (span : n.span = raw.span) (plain : n.isSelection = false)
    (tokens : n.tokens = [p.token source]) (hp : p ∈ raw.nodes)
    (spells : ∀ spelling, n.kind.spelling? = some spelling → p.Spells source spelling)
    (children : ∀ c ∈ n.children, Made root source false l raw raw c) (fewer : l < m) :
    Made root source true m raw raw n := by
  have held := RawNode.mem_nodes_trans g.here hp
  refine .node fewer (.inl ⟨g.here, raw.mem_nodes_self⟩) span plain ?_ ?_ children
  · intro t ht
    rw [tokens, List.mem_singleton] at ht
    exact ⟨p, held, ht⟩
  · exact fun spelling known => ⟨p, held, tokens, spells spelling known⟩

/-! ### Names -/

/-- A name that stands anywhere inside the node. -/
theorem name (hp : p ∈ raw.nodes) (hm : 0 < m) :
    Made root source false m raw raw (identifier source p).node :=
  g.inside hp (.identifier (RawNode.mem_nodes_trans g.here hp) hm)

/-- A name that the node holds under a field. -/
theorem nameField {field : String} (named : raw.field? field = some p) (hm : 0 < m) :
    Made root source false m raw raw (identifier source p).node :=
  g.name (RawNode.mem_nodes_of_field? named) hm

/-! ### Parts -/

/-- An expression that was asked for is made from its node exactly. -/
theorem expression {e : Expression} (hp : p ∈ raw.nodes)
    (given : Gives below Lowering.expression p e) : Made root source true h p p e.node :=
  g.asked.expression hp given

/-- A type that was asked for is made from its node exactly. -/
theorem type {e : Expression} (hp : p ∈ raw.nodes) (given : Gives below typeExpression p e) :
    Made root source true h p p e.node :=
  g.asked.type hp given

/-- A part that may be absent, looked for somewhere inside the node. As a child it need not be made
exactly. -/
theorem expressionPart {part : Option RawNode} {result : Option Expression}
    (found : ∀ p, part = some p → p ∈ raw.nodes)
    (given : Option.Rel (Gives below Lowering.expression) part result) :
    ∀ e, result = some e → Made root source false h raw raw e.node :=
  of_rel given fun p hp _ gives => g.inside (found p hp) (g.expression (found p hp) gives)

/-- Like `expressionPart`, for a part that is asked for as a type. -/
theorem typePart {part : Option RawNode} {result : Option Expression}
    (found : ∀ p, part = some p → p ∈ raw.nodes)
    (given : Option.Rel (Gives below typeExpression) part result) :
    ∀ e, result = some e → Made root source false h raw raw e.node :=
  of_rel given fun p hp _ gives => g.inside (found p hp) (g.type (found p hp) gives)

/-- Like `expressionPart`, for a part that is asked for as a statement. -/
theorem statementPart {part : Option RawNode} {result : Option Statement}
    (found : ∀ p, part = some p → p ∈ raw.nodes)
    (given : Option.Rel (Gives below Lowering.statement) part result) :
    ∀ s, result = some s → Made root source false h raw raw s.node :=
  of_rel given fun p hp _ gives => g.inside (found p hp) (g.asked.statement (found p hp) gives)

/-- An expression that the node holds under a field. -/
theorem field {name : String} {result : Option Expression}
    (given : Option.Rel (Gives below Lowering.expression) (raw.field? name) result) :
    ∀ e, result = some e → Made root source false h raw raw e.node :=
  g.expressionPart (fun _ => RawNode.mem_nodes_of_field?) given

/-- A type that the node holds under a field. -/
theorem typeField {name : String} {result : Option Expression}
    (given : Option.Rel (Gives below typeExpression) (raw.field? name) result) :
    ∀ e, result = some e → Made root source false h raw raw e.node :=
  g.typePart (fun _ => RawNode.mem_nodes_of_field?) given

/-- A statement that the node holds under a field. -/
theorem statementField {name : String} {result : Option Statement}
    (given : Option.Rel (Gives below Lowering.statement) (raw.field? name) result) :
    ∀ s, result = some s → Made root source false h raw raw s.node :=
  g.statementPart (fun _ => RawNode.mem_nodes_of_field?) given

/-- The first named child, where a construct has one part and no field for it. -/
theorem head {result : Option Expression}
    (given : Option.Rel (Gives below Lowering.expression) raw.namedChildren.head? result) :
    ∀ e, result = some e → Made root source false h raw raw e.node :=
  g.expressionPart (fun _ found => raw.namedChildren_subset_nodes (List.mem_of_head? found)) given

/-- The members of a list, where the list may be absent and makes no node of its own. -/
theorem items {list : Option RawNode} (found : ∀ l, list = some l → l ∈ raw.nodes)
    {es : List Expression}
    (given : List.Forall₂ (Gives below Lowering.expression) (Lowering.items list) es) :
    ∀ e ∈ es, Made root source false h raw raw e.node :=
  of_forall₂ given fun _ hp _ gives =>
    have inner := mem_nodes_of_mem_items found hp
    g.inside inner (g.expression inner gives)

/-- Like `items`, for members that are asked for as types. -/
theorem typeItems {list : Option RawNode} (found : ∀ l, list = some l → l ∈ raw.nodes)
    {es : List Expression}
    (given : List.Forall₂ (Gives below typeExpression) (Lowering.items list) es) :
    ∀ e ∈ es, Made root source false h raw raw e.node :=
  of_forall₂ given fun _ hp _ gives =>
    have inner := mem_nodes_of_mem_items found hp
    g.inside inner (g.type inner gives)

end Grounded

end JavaSyntax
