import JavaSyntax.Raw.Basic

/-!
# Rows — a raw tree as a flat table

A raw tree is handed over as a list of rows in pre-order, each with its depth: the parts of a node
are the rows one deeper that follow it, up to the next row that is no deeper than itself. A row
gives byte offsets; lines and columns follow from the source.
-/

namespace JavaSyntax

/-- One node of a raw tree in a table. -/
structure RawRow where
  depth : Nat
  tag : String
  isNamed : Bool
  isError : Bool
  isMissing : Bool
  isExtra : Bool
  containsErrors : Bool
  startByte : Nat
  stopByte : Nat
  /-- The name under which the parent holds the node, empty for none. -/
  field : String
  deriving DecidableEq, Repr

namespace RawRow

/-- What a row says of its node, given the bytes of the source. -/
def label (bytes : List UInt8) (row : RawRow) : RawLabel where
  tag := row.tag
  isNamed := row.isNamed
  isError := row.isError
  isMissing := row.isMissing
  isExtra := row.isExtra
  containsErrors := row.containsErrors
  field := if row.field.isEmpty then none else some row.field
  startByte := row.startByte
  stopByte := row.stopByte
  start := Source.placeAfter (bytes.take row.startByte)
  stop := Source.placeAfter (bytes.take row.stopByte)

/-- Puts a row before the trees made of the rows after it: those that are deeper, up to the first
that is not, become its parts. -/
def plant (bytes : List UInt8) (row : RawRow) (after : List (Nat × RawNode)) :
    List (Nat × RawNode) :=
  let below := after.takeWhile fun t => decide (row.depth < t.1)
  let rest := after.dropWhile fun t => decide (row.depth < t.1)
  (row.depth, .node (row.label bytes) (below.map Prod.snd)) :: rest

end RawRow

/-- The tree of a table; none if the table has no row or more than one root. -/
def RawNode.ofRows? (source : String) (rows : List RawRow) : Option RawNode :=
  match rows.foldr (RawRow.plant (Source.bytes source)) [] with
  | [(_, root)] => some root
  | _ => none

end JavaSyntax
