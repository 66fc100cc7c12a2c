import JavaSyntax.Tree.Traversal

/-!
# Outline — one line of text per node

Each node takes one line: two blanks per depth, the name of its kind, and for identifiers, literals
and primitive types their text. Lines are in pre-order, with a line feed between them.
-/

namespace JavaSyntax

namespace Outline

/-- The text that the line of a node shows beside its kind. -/
def tokenText? : Node → Option String
  | .expression (.identifier name) => some name.name
  | .expression (.literal _ token) => some token.text
  | .expression (.primitiveType keyword) => some keyword.text
  | _ => none

/-- The line of a node, without its indentation. -/
def caption (n : Node) : String :=
  match tokenText? n with
  | some text => n.kind.name ++ " " ++ text
  | none => n.kind.name

def indentation (depth : Nat) : String := String.join (List.replicate depth "  ")

/-- Adds a line to what is already written. -/
def addLine (written line : String) : String :=
  if written.isEmpty then line else written ++ "\n" ++ line

/-- Writes the nodes that are pending, each with its depth, and all nodes below them. -/
def write (written : String) : List (Node × Nat) → String
  | [] => written
  | (n, depth) :: pending =>
    write (addLine written (indentation depth ++ caption n))
      (n.children.map (fun c => (c, depth + 1)) ++ pending)
termination_by pending => forestSize (pending.map Prod.fst)
decreasing_by
  rw [List.map_append, List.map_map, List.map_cons, forestSize_append, forestSize, Node.size_eq n]
  have hc : n.children.map (Prod.fst ∘ fun c => (c, depth + 1)) = n.children :=
    (List.map_congr_left fun _ _ => rfl).trans (List.map_id _)
  rw [hc]
  omega

end Outline

/-- The outline of a tree. -/
def Node.outline (n : Node) : String := Outline.write "" [(n, 0)]

end JavaSyntax
