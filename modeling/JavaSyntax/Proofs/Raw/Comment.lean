import JavaSyntax.Proofs.Raw.Damage

/-!
# Comments and flags — what a raw tree is without them

A grammar puts comments anywhere among the parts of a node and holds them under no name. Error
recovery sets two flags on nodes: that a token was supplied, and that there is damage below.
`RawNode.stripped` is a tree without either, at every level.

* `RawNode.children_stripped`, `RawNode.field?_stripped` and their like: whatever is looked up in a
  node without its comments is what is looked up in the node, without comments in turn;
* `RawNode.stripped_cleared`: a tree whose flags alone are cleared is the same without both;
* `RawNode.firstError?_eq_none`: where no error is reached, the search for one finds none.

A comment is an extra, and an error can be one. The first is dropped and the second kept, so a damaged
tree stays damaged; and an extra that is held under a name is kept as well, since a lookup by name
finds it (`RawNode.isComment_of_field`). These two facts are all that the lookups need: what passes
one of their tests is no comment (`RawNode.filter_parts_stripped`).
-/

namespace JavaSyntax

/-- A label with the flags of error recovery cleared. What an error is stays one. -/
def RawLabel.unflagged (label : RawLabel) : RawLabel :=
  { label with isMissing := false, containsErrors := false }

namespace RawNode

/-! ## Trees without comments -/

/-- Whether the node is a comment: an extra that is no error and is held under no name. -/
def isComment (r : RawNode) : Bool :=
  r.label.isExtra && !r.label.isError && r.label.field.isNone

mutual

/-- The tree without its comments and with all flags of error recovery cleared. -/
def stripped : RawNode → RawNode
  | node label parts => node label.unflagged (strippedIn parts)

/-- The parts that are no comments, each without its own. -/
def strippedIn : List RawNode → List RawNode
  | [] => []
  | part :: rest => if part.isComment then strippedIn rest else stripped part :: strippedIn rest

end

mutual

/-- The tree with all flags of error recovery cleared. -/
def cleared : RawNode → RawNode
  | node label parts => node label.unflagged (clearedIn parts)

/-- The parts, each with its flags cleared. No part is dropped. -/
def clearedIn : List RawNode → List RawNode
  | [] => []
  | part :: rest => cleared part :: clearedIn rest

end

/-- Dropping comments on the way down is dropping them at one level and then going on below. -/
theorem strippedIn_eq (rs : List RawNode) :
    strippedIn rs = (rs.filter fun r => !r.isComment).map stripped := by
  induction rs with
  | nil => rfl
  | cons r rest ih =>
    rw [strippedIn, List.filter_cons]
    cases r.isComment with
    | true => exact ih
    | false =>
      show stripped r :: strippedIn rest = stripped r :: _
      rw [ih]

/-- The label of the root is kept but for its flags, so what is read from a label alone does not change.
-/
theorem label_stripped (r : RawNode) : r.stripped.label = r.label.unflagged := by
  obtain ⟨label, parts⟩ := r
  rfl

/-- One level of a tree without comments. -/
theorem parts_stripped (r : RawNode) :
    r.stripped.parts = (r.parts.filter fun p => !p.isComment).map stripped := by
  obtain ⟨label, parts⟩ := r
  exact strippedIn_eq parts

/-! ## What a node says of itself -/

section

variable (r : RawNode)

@[simp] theorem tag_stripped : r.stripped.tag = r.tag := by
  rw [tag, label_stripped]
  rfl

@[simp] theorem isNamed_stripped : r.stripped.isNamed = r.isNamed := by
  rw [isNamed, label_stripped]
  rfl

@[simp] theorem isKept_stripped : r.stripped.isKept = r.isKept := by
  rw [isKept, label_stripped]
  rfl

@[simp] theorem labelField_stripped : r.stripped.label.field = r.label.field := by
  rw [label_stripped]
  rfl

@[simp] theorem span_stripped : r.stripped.span = r.span := by
  rw [span, label_stripped]
  rfl

@[simp] theorem position_stripped : r.stripped.position = r.position := by
  rw [position, label_stripped]
  rfl

/-- The extent of a node does not shrink, so its text still has the comments in it. -/
@[simp] theorem text_stripped (source : String) : r.stripped.text source = r.text source := by
  rw [text, label_stripped]
  rfl

@[simp] theorem token_stripped (source : String) : r.stripped.token source = r.token source := by
  rw [token, text_stripped, span_stripped, token]

/-- A refusal names the tag and the position of a node, and neither is a flag. -/
@[simp] theorem unsupported_stripped : r.stripped.unsupported = r.unsupported := by
  rw [unsupported, tag_stripped, position_stripped, unsupported]

end

/-! ## Lists of nodes without comments -/

section

variable {test : RawNode → Bool} (same : ∀ r, test r.stripped = test r)

include same

/-- A test that reads what does not change selects the same nodes. -/
theorem filter_map_stripped (rs : List RawNode) :
    (rs.map stripped).filter test = (rs.filter test).map stripped := by
  rw [List.filter_map]
  have : test ∘ stripped = test := funext same
  rw [this]

/-- The first node that passes such a test is the same one. -/
theorem find?_map_stripped (rs : List RawNode) :
    (rs.map stripped).find? test = (rs.find? test).map stripped := by
  rw [List.find?_map]
  have : test ∘ stripped = test := funext same
  rw [this]

/-- A test that no comment passes selects the same parts of a node without its comments. -/
theorem filter_parts_stripped (passes : ∀ r, test r → r.isComment = false) (r : RawNode) :
    r.stripped.parts.filter test = (r.parts.filter test).map stripped := by
  rw [parts_stripped, filter_map_stripped same, List.filter_filter]
  congr 1
  refine List.filter_congr fun p _ => ?_
  cases h : test p with
  | false => rfl
  | true => rw [passes p h]; rfl

end

/-! ## Lookups -/

section

variable (r : RawNode)

/-- An error is kept though it is an extra, and it is no comment. -/
theorem isComment_of_isKept (kept : r.isKept) : r.isComment = false := by
  unfold isKept at kept
  unfold isComment
  cases hError : r.label.isError with
  | true => rw [Bool.not_true, Bool.and_false, Bool.false_and]
  | false =>
    rw [hError, Bool.false_or, Bool.not_eq_true'] at kept
    rw [kept, Bool.false_and, Bool.false_and]

/-- What is held under a name is no comment. -/
theorem isComment_of_field {name : String} (held : (r.label.field == some name) = true) :
    r.isComment = false := by
  rw [isComment, eq_of_beq held, Option.isNone_some, Bool.and_false]

/-- The children have been told from extras already, so comments do not matter for them. -/
@[simp] theorem children_stripped : r.stripped.children = r.children.map stripped :=
  filter_parts_stripped isKept_stripped isComment_of_isKept r

@[simp] theorem namedChildren_stripped :
    r.stripped.namedChildren = r.namedChildren.map stripped := by
  rw [namedChildren, children_stripped]
  exact filter_map_stripped isNamed_stripped _

@[simp] theorem tokens_stripped : r.stripped.tokens = r.tokens.map stripped := by
  rw [tokens, children_stripped]
  exact filter_map_stripped (fun c => by rw [isNamed_stripped]) _

@[simp] theorem findToken?_stripped (tag : String) :
    r.stripped.findToken? tag = (r.findToken? tag).map stripped := by
  rw [findToken?, tokens_stripped]
  exact find?_map_stripped (fun c => by rw [tag_stripped]) _

@[simp] theorem hasToken_stripped (tag : String) : r.stripped.hasToken tag = r.hasToken tag := by
  rw [hasToken, findToken?_stripped, Option.isSome_map, hasToken]

@[simp] theorem childOfTag?_stripped (tag : String) :
    r.stripped.childOfTag? tag = (r.childOfTag? tag).map stripped := by
  rw [childOfTag?, namedChildren_stripped]
  exact find?_map_stripped (fun c => by rw [tag_stripped]) _

@[simp] theorem childrenOfTag_stripped (tag : String) :
    r.stripped.childrenOfTag tag = (r.childrenOfTag tag).map stripped := by
  rw [childrenOfTag, namedChildren_stripped]
  exact filter_map_stripped (fun c => by rw [tag_stripped]) _

@[simp] theorem fields_stripped (name : String) :
    r.stripped.fields name = (r.fields name).map stripped :=
  filter_parts_stripped (fun p => by rw [labelField_stripped]) (fun p => isComment_of_field p) r

/-- The first part of a name is the head of all parts of that name. -/
@[simp] theorem field?_stripped (name : String) :
    r.stripped.field? name = (r.field? name).map stripped := by
  have first (q : RawNode) : q.field? name = (q.fields name).head? := List.head?_filter.symm
  rw [first, first, fields_stripped, List.head?_map]

end

/-! ## Trees with cleared flags -/

mutual

/-- Clearing flags does not make a comment, and leaves nothing to clear. -/
theorem stripped_cleared : (r : RawNode) → r.cleared.stripped = r.stripped
  | node label parts => by
    -- the induction is on the tree, both sides by one level
    rw [cleared, stripped, stripped, strippedIn_clearedIn parts]
    rfl

/-- The same for a list of parts, where a part is a comment whether or not its flags are cleared. -/
theorem strippedIn_clearedIn : (rs : List RawNode) → strippedIn (clearedIn rs) = strippedIn rs
  | [] => rfl
  | part :: rest => by
    have same : part.cleared.isComment = part.isComment := by
      obtain ⟨label, parts⟩ := part
      rfl
    rw [clearedIn, strippedIn, strippedIn, same, stripped_cleared part, strippedIn_clearedIn rest]

end

/-- A cleared tree does not say that it is damaged, even where errors are left in it. -/
theorem containsErrors_cleared (r : RawNode) : r.cleared.containsErrors = false := by
  obtain ⟨label, parts⟩ := r
  rfl

/-- Where no error is reached, the search for the first one finds none. -/
theorem firstError?_eq_none {r : RawNode} (intact : ∀ q ∈ r.reachable, ¬ q.isError) :
    r.firstError? = none := by
  induction r using inductionOnParts with
  | node r ih =>
    rw [firstError?_eq, if_neg (intact r r.mem_reachable_self)]
    split
    · rw [List.findSome?_eq_none_iff]
      intro c hc
      exact ih c (r.children_subset_parts hc) fun q hq => intact q (mem_reachable_of_child hc hq)
    · rfl

end RawNode

end JavaSyntax
