import JavaSyntax.Text.Source

/-!
# Spans and tokens

A span says where a construct lies: its first byte, the byte after its last one, and the line and
column of both. Coordinates are 32-bit: a larger one is stored as the largest (`narrow`). A token
is a piece of text with its span.

* `Span.through` joins two spans, from the start of the first to the stop of the second, in whatever
  order they lie;
* `Span.text` reads a span back from a source text.
-/

namespace JavaSyntax

/-! ## Coordinates -/

/-- The largest line, column or byte offset that is stored. -/
def coordinateLimit : Nat := 4294967295

/-- A coordinate as it is stored. -/
def narrow (n : Nat) : Nat := min n coordinateLimit

theorem narrow_of_le {n : Nat} (h : n ≤ coordinateLimit) : narrow n = n :=
  Nat.min_eq_left h

theorem narrow_le (n : Nat) : narrow n ≤ coordinateLimit :=
  Nat.min_le_right n coordinateLimit

theorem narrow_le_narrow {m n : Nat} (h : m ≤ n) : narrow m ≤ narrow n :=
  Nat.le_min.mpr ⟨Nat.le_trans (Nat.min_le_left m _) h, narrow_le m⟩

namespace LineCol

/-- A place as it is stored. -/
def narrow (place : LineCol) : LineCol :=
  ⟨JavaSyntax.narrow place.line, JavaSyntax.narrow place.column⟩

/-- The one-based line and column that reports show. The largest coordinate is not passed. -/
def oneBased (place : LineCol) : Nat × Nat :=
  (JavaSyntax.narrow (place.narrow.line + 1), JavaSyntax.narrow (place.narrow.column + 1))

end LineCol

/-! ## Spans -/

/-- The extent of a construct in bytes, and the places where it starts and stops. -/
structure Span where
  startByte : Nat
  stopByte : Nat
  start : LineCol
  stop : LineCol
  deriving DecidableEq, Repr, Inhabited

namespace Span

/-- The length in bytes; a reversed span has none. -/
def length (s : Span) : Nat := s.stopByte - s.startByte

/-- Whether the span covers no byte. -/
def isEmpty (s : Span) : Bool := s.length == 0

/-- Whether the bytes of `inner` lie within those of `s`. -/
def contains (s inner : Span) : Bool :=
  decide (s.startByte ≤ inner.startByte) && decide (inner.stopByte ≤ s.stopByte)

/-- From the start of `s` to the stop of `later`. -/
def through (s later : Span) : Span :=
  ⟨s.startByte, later.stopByte, s.start, later.stop⟩

/-- The text that the span covers, empty where the source has no such slice. -/
def text (s : Span) (source : String) : String :=
  Source.slice source s.startByte s.stopByte

end Span

/-! ## Tokens -/

/-- A piece of source text and where it stands. -/
structure SyntaxToken where
  text : String
  span : Span
  deriving DecidableEq, Repr, Inhabited

end JavaSyntax
