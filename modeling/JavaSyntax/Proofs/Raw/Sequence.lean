import JavaSyntax.Lowering.Declaration
import JavaSyntax.Proofs.Raw.Order

/-!
# Sequence — the order in which the grammar writes the parts of a node

The slots of a typed node are filled from parts that are found by name or by tag, so the order of the
slots is that of the source only if the grammar writes those parts in the order of the slots. A row lists
groups of parts of one raw node in the order in which the grammar writes them.

* `RawNode.rowsOf`: the rows of the forms that have their own order;
* `RawNode.Aligned`: whether the extents of a node and its parts agree with all rows;
* `RawNode.Conventional`: whether package, imports and types stand in that order, as the grammar does not
  ask for.

The rows are data: which parts, in which order, for which tag. A form that fills its slots from several
parts is shown to keep the order of its slots by naming its row and the places in it
(`RawNode.InTurn.pick`). The property can be decided, so it can be checked of a given raw tree.
-/

namespace JavaSyntax

namespace RawNode

/-! ## Rows -/

/-- Whether the members of each group stop before those of all later groups start. -/
def InTurn (groups : List (List RawNode)) : Prop :=
  groups.Pairwise fun ps qs => ∀ p ∈ ps, ∀ q ∈ qs, p.label.stopByte ≤ q.label.startByte

instance (groups : List (List RawNode)) : Decidable (InTurn groups) :=
  inferInstanceAs (Decidable (groups.Pairwise _))

/-- The parts of declarations, annotations and pairs that all forms write in one order. -/
def declaredRow (r : RawNode) : List (List RawNode) :=
  let held (name : String) : List RawNode := (r.field? name).toList
  let tagged (tag : String) : List RawNode := (r.childOfTag? tag).toList
  [tagged "modifiers", held "type", tagged "catch_type", tagged "catch_formal_parameter",
   held "name", held "arguments", held "value", held "body"]

/-- A type parameter and its bounds. -/
def boundedRow (r : RawNode) : List (List RawNode) :=
  [(r.childOfTag? "type_identifier").toList, (r.childOfTag? "type_bound").toList]

/-- Whether a child of a group of a switch is a label. -/
def isLabel (r : RawNode) : Bool := r.tag == "switch_label"

/-- Whether a child of a group of a switch is a statement. -/
def isBodyEntry (r : RawNode) : Bool := !r.isLabel && (r.isNamed || r.tag == ";")

/-- The labels of a group of a switch, and its statements. -/
def labeledRow (r : RawNode) : List (List RawNode) :=
  [r.children.filter isLabel, r.children.filter isBodyEntry]

/-- The rows of a node of the given tag, where it has an order of its own. -/
def rowsOf (r : RawNode) (tag : String) : List (List (List RawNode)) :=
  let held (name : String) : List RawNode := (r.field? name).toList
  let tagged (tag : String) : List RawNode := (r.childOfTag? tag).toList
  let token (tag : String) : List RawNode := (r.findToken? tag).toList
  let other (tag : String) : List RawNode :=
    (r.namedChildren.find? fun child => child.tag != tag).toList
  match tag with
  | "scoped_identifier" => [[held "scope", held "name"]]
  | "generic_type" => [[other "type_arguments", tagged "type_arguments"]]
  | "element_value_pair" => [[held "key", held "value"]]
  | "field_access" => [[held "object", r.middle?.toList, held "field"]]
  | "method_invocation" =>
    [[held "object", r.innerSupers, held "name"],
     [((r.field? "object").or (r.field? "name")).toList, held "type_arguments", held "arguments"]]
  | "explicit_constructor_invocation" =>
    [[held "object", held "type_arguments", held "constructor", held "arguments"]]
  | "object_creation_expression" =>
    [[(r.children.head?.filter isNamed).toList, held "type_arguments", held "type",
      held "arguments", tagged "class_body"]]
  | "array_creation_expression" => [[held "type", r.fields "dimensions", held "value"]]
  | "array_access" => [[held "array", held "index"]]
  | "cast_expression" => [[(r.fields "type").head?.toList, held "value"]]
  | "instanceof_expression" | "binary_expression" | "assignment_expression" =>
    [[held "left", held "right"]]
  | "ternary_expression" => [[held "condition", held "consequence", held "alternative"]]
  | "lambda_expression" => [[held "parameters", held "body"]]
  | "method_reference" =>
    [[r.namedChildren.head?.toList, ((r.findToken? "new").or r.namedChildren[1]?).toList]]
  | "class_literal" => [[r.namedChildren.head?.toList, token "class"]]
  | "field_declaration" | "constant_declaration" | "local_variable_declaration" =>
    [[tagged "modifiers", held "type", r.fields "declarator"]]
  | "spread_parameter" =>
    [[tagged "modifiers",
      (r.namedChildren.find? fun child =>
        child.tag != "modifiers" && child.tag != "variable_declarator").toList,
      tagged "variable_declarator"]]
  | "method_declaration" | "constructor_declaration" | "annotation_type_element_declaration" =>
    [[tagged "modifiers", held "type_parameters", held "type", held "name", held "parameters",
      tagged "throws", held "body", held "value"]]
  | "class_declaration" | "interface_declaration" | "enum_declaration"
  | "annotation_type_declaration" =>
    [[tagged "modifiers", held "name", held "type_parameters", held "superclass",
      ((r.field? "interfaces").or (r.childOfTag? "extends_interfaces")).toList, held "body"]]
  | "if_statement" => [[held "condition", held "consequence", held "alternative"]]
  | "while_statement" | "switch_expression" => [[held "condition", held "body"]]
  | "do_statement" => [[held "body", held "condition"]]
  | "for_statement" => [[r.fields "init", held "condition", r.fields "update", held "body"]]
  | "synchronized_statement" => [[tagged "parenthesized_expression", held "body"]]
  | "try_statement" | "try_with_resources_statement" =>
    [[held "resources", held "body", r.childrenOfTag "catch_clause", tagged "finally_clause"]]
  | "import_declaration" => [[other "asterisk", tagged "asterisk"]]
  | _ => []

namespace InTurn

variable {groups : List (List RawNode)} {p q : RawNode} {i j : Nat}

/-- Members of groups at two places. -/
theorem le_of_places (h : InTurn groups) (hij : i < j) (hp : p ∈ groups.getD i [])
    (hq : q ∈ groups.getD j []) : p.label.stopByte ≤ q.label.startByte := by
  obtain ⟨hi, hp⟩ := exists_of_mem_getD hp
  obtain ⟨hj, hq⟩ := exists_of_mem_getD hq
  exact List.pairwise_iff_getElem.mp h i j hi hj hij p hp q hq

/-- Some of the groups, by their places. -/
theorem pick (h : InTurn groups) (places : List Nat) (up : places.Pairwise (· < ·)) :
    InTurn (places.map fun i => groups.getD i []) :=
  List.pairwise_map.mpr (up.imp fun hij _ hp _ hq => h.le_of_places hij hp hq)

/-- The first two groups as one. -/
theorem merge {ps qs : List RawNode} (h : InTurn (ps :: qs :: groups)) :
    InTurn ((ps ++ qs) :: groups) := by
  simp only [InTurn, List.pairwise_cons, List.forall_mem_cons] at h ⊢
  refine ⟨fun rs hrs p hp => ?_, h.2.2⟩
  rcases List.mem_append.mp hp with hp | hp
  · exact h.1.2 rs hrs p hp
  · exact h.2.1 rs hrs p hp

end InTurn

/-! ## Extents in sequence -/

/-- Whether the extents of a node and its parts agree with the order of the source and of the
grammar. -/
structure Aligned (r : RawNode) : Prop extends r.Nested where
  declared : InTurn r.declaredRow
  bounded : InTurn r.boundedRow
  labeled : InTurn r.labeledRow
  rows : ∀ row ∈ r.rowsOf r.tag, InTurn row
  /-- A package declaration starts with its annotations. -/
  package : r.tag = "package_declaration" → r.namedChildren.Pairwise fun a b =>
    Lowering.isAnnotationUse b → Lowering.isAnnotationUse a

/-- Whether all nodes of a raw tree agree with the order of the source and of the grammar. -/
def Sequenced (root : RawNode) : Prop := ∀ r ∈ root.nodes, r.Aligned

/-- Whether no package declaration follows another declaration, and no import a type. The grammar takes
the declarations at the top of a source in any order. -/
def Conventional (root : RawNode) : Prop :=
  root.namedChildren.Pairwise fun a b => b.tag ≠ "package_declaration" ∧
    (b.tag = "import_declaration" → a.tag = "package_declaration" ∨ a.tag = "import_declaration")

instance (r : RawNode) : Decidable r.Aligned :=
  decidable_of_iff
    ((r.label.startByte ≤ r.label.stopByte ∧
        (∀ p ∈ r.parts,
          r.label.startByte ≤ p.label.startByte ∧ p.label.stopByte ≤ r.label.stopByte) ∧
        r.parts.Pairwise fun p q => p.label.stopByte ≤ q.label.startByte) ∧
      InTurn r.declaredRow ∧ InTurn r.boundedRow ∧ InTurn r.labeledRow ∧
      (∀ row ∈ r.rowsOf r.tag, InTurn row) ∧
      (r.tag = "package_declaration" → r.namedChildren.Pairwise fun a b =>
        Lowering.isAnnotationUse b → Lowering.isAnnotationUse a))
    ⟨fun ⟨⟨proper, within, apart⟩, declared, bounded, labeled, rows, package⟩ =>
        ⟨⟨proper, within, apart⟩, declared, bounded, labeled, rows, package⟩,
      fun h => ⟨⟨h.proper, h.within, h.apart⟩, h.declared, h.bounded, h.labeled, h.rows,
        h.package⟩⟩

instance (root : RawNode) : Decidable root.Sequenced :=
  inferInstanceAs (Decidable (∀ r ∈ root.nodes, r.Aligned))

instance (root : RawNode) : Decidable root.Conventional :=
  inferInstanceAs (Decidable (root.namedChildren.Pairwise _))

variable {root r x : RawNode} {ps : List RawNode}

/-- A part that is held under a name, as a list of at most one. -/
theorem mem_nodes_of_mem_field {name : String} (h : x ∈ (r.field? name).toList) : x ∈ r.nodes :=
  mem_nodes_of_field? (Option.mem_toList.mp h)

/-- A named child of a tag, as a list of at most one. -/
theorem mem_nodes_of_mem_childOfTag {tag : String} (h : x ∈ (r.childOfTag? tag).toList) :
    x ∈ r.nodes :=
  mem_nodes_of_childOfTag? (Option.mem_toList.mp h)

namespace Aligned

/-- A row of a node whose tag is known. -/
theorem row (aligned : r.Aligned) {tag : String} (h : r.tag = tag) {row : List (List RawNode)}
    (listed : row ∈ r.rowsOf tag) : InTurn row :=
  aligned.rows row (h ▸ listed)

/-- Parts that are listed in source order come in that order. -/
theorem pairwise_of_sublist (aligned : r.Aligned) (h : ps.Sublist r.parts) :
    ps.Pairwise fun p q => p.label.stopByte ≤ q.label.startByte :=
  aligned.apart.sublist h

/-- The first two named children. -/
theorem namedPair (aligned : r.Aligned) :
    InTurn [r.namedChildren.head?.toList, r.namedChildren[1]?.toList] := by
  have order := aligned.pairwise_of_sublist r.namedChildren_sublist_parts
  match r.namedChildren, order with
  | [], _ | [_], _ => simp [InTurn]
  | first :: second :: rest, order =>
    rw [List.pairwise_cons] at order
    simpa [InTurn] using order.1 second List.mem_cons_self

end Aligned

namespace Sequenced

variable (sequenced : root.Sequenced)

include sequenced

/-- A node lies within those that hold it. -/
theorem within (hr : r ∈ root.nodes) (hx : x ∈ r.nodes) :
    r.label.startByte ≤ x.label.startByte ∧ x.label.stopByte ≤ r.label.stopByte :=
  within_of_nested (fun r hr => (sequenced r hr).toNested) hr hx

end Sequenced

end RawNode

end JavaSyntax
