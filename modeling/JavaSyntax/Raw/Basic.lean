import JavaSyntax.SyntaxError
import JavaSyntax.Text.Span

/-!
# Raw trees — the concrete syntax tree of a Java source

A raw tree is what a grammar gives for a source text: every node has a tag of the grammar, an
extent, and the nodes it consists of, punctuation and comments included. Error recovery leaves
marks: nodes for skipped text (errors), nodes for supplied tokens (missing ones), and a flag on
nodes with damage in them.

Reading a raw tree goes through `children`, which leaves out comments and other extras but keeps
errors. Parts that the grammar names are found by `field?`; a field is looked up among all parts,
since extras have none.
-/

namespace JavaSyntax

/-- What a raw node holds besides its parts. -/
structure RawLabel where
  tag : String
  /-- Whether a rule of the grammar made the node; if not it is a token such as a keyword. -/
  isNamed : Bool
  /-- Whether the node holds text that the grammar could not place. -/
  isError : Bool
  /-- Whether error recovery supplied the node. -/
  isMissing : Bool
  /-- Whether the node may stand anywhere, as comments do. -/
  isExtra : Bool
  /-- Whether there is damage in the node or below it. -/
  containsErrors : Bool
  /-- The name under which the parent holds the node. -/
  field : Option String
  startByte : Nat
  stopByte : Nat
  start : LineCol
  stop : LineCol
  deriving DecidableEq, Repr

/-- A node of a raw tree with all its parts in source order. -/
inductive RawNode where
  | node (label : RawLabel) (parts : List RawNode)

namespace RawNode

def label : RawNode → RawLabel
  | node label _ => label

def parts : RawNode → List RawNode
  | node _ parts => parts

def tag (r : RawNode) : String := r.label.tag

def isNamed (r : RawNode) : Bool := r.label.isNamed

def isError (r : RawNode) : Bool := r.label.isError

def isMissing (r : RawNode) : Bool := r.label.isMissing

def containsErrors (r : RawNode) : Bool := r.label.containsErrors

/-- Whether the node counts as a child of its parent: extras do not, errors always do. -/
def isKept (r : RawNode) : Bool := r.label.isError || !r.label.isExtra

/-! ## Extent and text -/

/-- The extent of a node as typed trees store it. -/
def span (r : RawNode) : Span :=
  ⟨narrow r.label.startByte, narrow r.label.stopByte, r.label.start.narrow, r.label.stop.narrow⟩

/-- The one-based line and column where the node starts. -/
def position (r : RawNode) : Nat × Nat := r.label.start.oneBased

/-- The text of a node within its source: its bytes decoded, empty where they are not UTF-8. -/
def text (source : String) (r : RawNode) : String :=
  Source.decode source r.label.startByte r.label.stopByte

/-- The token that a node makes. -/
def token (source : String) (r : RawNode) : SyntaxToken := ⟨r.text source, r.span⟩

/-! ## Children -/

/-- The parts of a node without comments and other extras. -/
def children (r : RawNode) : List RawNode := r.parts.filter isKept

def namedChildren (r : RawNode) : List RawNode := r.children.filter isNamed

/-- The children that are tokens of the grammar. -/
def tokens (r : RawNode) : List RawNode := r.children.filter fun c => !c.isNamed

/-- The first token of that tag. -/
def findToken? (r : RawNode) (tag : String) : Option RawNode :=
  r.tokens.find? fun c => c.tag == tag

def hasToken (r : RawNode) (tag : String) : Bool := (r.findToken? tag).isSome

/-- The first named child of that tag. -/
def childOfTag? (r : RawNode) (tag : String) : Option RawNode :=
  r.namedChildren.find? fun c => c.tag == tag

def childrenOfTag (r : RawNode) (tag : String) : List RawNode :=
  r.namedChildren.filter fun c => c.tag == tag

/-! ## Fields -/

/-- The first part that the node holds under that name. -/
def field? (r : RawNode) (name : String) : Option RawNode :=
  r.parts.find? fun c => c.label.field == some name

/-- All parts that the node holds under that name. -/
def fields (r : RawNode) (name : String) : List RawNode :=
  r.parts.filter fun c => c.label.field == some name

/-! ## Errors and listings -/

/-- The refusal of a construct that typed trees do not have. -/
def unsupported (r : RawNode) : SyntaxError :=
  .unsupported r.tag r.position.1 r.position.2

mutual

/-- A node and all that is reached from it through children, in pre-order, each with its depth. -/
def levels (depth : Nat) : RawNode → List (Nat × RawNode)
  | node label parts => (depth, node label parts) :: levelsIn (depth + 1) parts

/-- The levels of those of the parts that are children. -/
def levelsIn (depth : Nat) : List RawNode → List (Nat × RawNode)
  | [] => []
  | part :: rest => (if part.isKept then levels depth part else []) ++ levelsIn depth rest

end

/-- A node and all that is reached from it through children, in pre-order. -/
def reachable (r : RawNode) : List RawNode := (r.levels 0).map Prod.snd

mutual

/-- A node and all nodes that it consists of, extras included, in pre-order. -/
def nodes : RawNode → List RawNode
  | node label parts => node label parts :: nodesIn parts

/-- The nodes of several trees, one tree after the other. -/
def nodesIn : List RawNode → List RawNode
  | [] => []
  | r :: rest => nodes r ++ nodesIn rest

end

theorem nodesIn_append (rs ss : List RawNode) : nodesIn (rs ++ ss) = nodesIn rs ++ nodesIn ss := by
  induction rs with
  | nil => rfl
  | cons r rest ih => rw [List.cons_append, nodesIn, ih, nodesIn, List.append_assoc]

theorem nodesIn_filter_sublist (keep : RawNode → Bool) (rs : List RawNode) :
    (nodesIn (rs.filter keep)).Sublist (nodesIn rs) := by
  induction rs with
  | nil => exact List.Sublist.refl _
  | cons r rest ih =>
    rw [List.filter_cons, nodesIn]
    split
    · rw [nodesIn]
      exact (List.Sublist.refl _).append ih
    · exact ih.trans (List.sublist_append_right _ _)

/-- The children of a node are made of fewer nodes than the node. -/
theorem length_nodesIn_children_lt (r : RawNode) :
    (nodesIn r.children).length < r.nodes.length := by
  obtain ⟨label, parts⟩ := r
  rw [nodes, List.length_cons]
  exact Nat.lt_succ_of_le (nodesIn_filter_sublist isKept parts).length_le

/-- The tag and the extent of a node, spelled out for a reader of traces. -/
def trace (r : RawNode) : String :=
  let place (p : LineCol) : String := s!"LineCol \x7b line: {p.line}, column: {p.column} \x7d"
  let quoted := r.tag.toList.flatMap fun c =>
    if c == '"' || c == '\\' then ['\\', c] else [c]
  let s := r.span
  s!"RawNode \x7b tag: \"{String.ofList quoted}\", span: Span \x7b start_byte: {s.startByte}, " ++
    s!"end_byte: {s.stopByte}, start: {place s.start}, end: {place s.stop} \x7d \x7d"

end RawNode

end JavaSyntax
