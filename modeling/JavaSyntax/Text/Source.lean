/-!
# Source text — byte offsets, slices and positions

Places in a source text are counted in bytes of its UTF-8 form. This module reads a text between two
byte offsets, in two ways, and finds the line and column of an offset.

* `Source.slice?` cuts the text, and answers only for cuts that fall between characters;
* `Source.decode?` decodes the bytes between the cuts, and answers only if they are UTF-8;
* `Source.slice` and `Source.decode` give the empty text where there is none;
* `Source.lineCol` counts the line feeds before an offset and the bytes after the last of them.
-/

namespace JavaSyntax

/-- A place in a source text: zero-based line, and column in bytes from the start of that line.
Places are ordered by line, then by column. -/
structure LineCol where
  line : Nat
  column : Nat
  deriving DecidableEq, Repr, Inhabited, Ord

namespace Source

/-! ## Slices -/

/-- The characters after the first `n` bytes; none if the text is shorter or the cut falls inside
a character. -/
def dropBytes? : Nat → List Char → Option (List Char)
  | 0, cs => some cs
  | _ + 1, [] => none
  | n + 1, c :: cs =>
    if c.utf8Size ≤ n + 1 then dropBytes? (n + 1 - c.utf8Size) cs else none

/-- The characters that make up the first `n` bytes; none if the text is shorter or the cut falls
inside a character. -/
def takeBytes? : Nat → List Char → Option (List Char)
  | 0, _ => some []
  | _ + 1, [] => none
  | n + 1, c :: cs =>
    if c.utf8Size ≤ n + 1 then (takeBytes? (n + 1 - c.utf8Size) cs).map (c :: ·) else none

/-- The text from byte `start` up to byte `stop`; none if the offsets are reversed, lie beyond the
text or fall inside a character. -/
def slice? (source : String) (start stop : Nat) : Option String :=
  if start ≤ stop then
    ((dropBytes? start source.toList).bind (takeBytes? (stop - start))).map String.ofList
  else
    none

/-- The text from byte `start` up to byte `stop`, empty where there is no such slice. -/
def slice (source : String) (start stop : Nat) : String :=
  (slice? source start stop).getD ""

/-! ## Decoded bytes -/

/-- The bytes from `start` up to `stop`; none if the offsets are reversed or lie beyond the text. -/
def bytesBetween? (source : String) (start stop : Nat) : Option ByteArray :=
  if start ≤ stop ∧ stop ≤ source.utf8ByteSize then some (source.toUTF8.extract start stop) else none

/-- The bytes from `start` up to `stop` as a text; none if they are not UTF-8. Nothing is asked of the
cuts themselves, as the bytes have to be decoded without the text around them. -/
def decode? (source : String) (start stop : Nat) : Option String :=
  (bytesBetween? source start stop).bind String.fromUTF8?

/-- The bytes from `start` up to `stop` as a text, empty where they are none. -/
def decode (source : String) (start stop : Nat) : String :=
  (decode? source start stop).getD ""

/-! ## Positions -/

/-- The UTF-8 bytes of a text. -/
def bytes (source : String) : List UInt8 :=
  source.toUTF8.data.toList

/-- One byte moves a place one column on; a line feed moves it to the start of the next line. -/
def advance (place : LineCol) (byte : UInt8) : LineCol :=
  if byte = 10 then ⟨place.line + 1, 0⟩ else ⟨place.line, place.column + 1⟩

/-- The place reached after reading the given bytes from the start of a text. -/
def placeAfter (read : List UInt8) : LineCol :=
  read.foldl advance ⟨0, 0⟩

/-- The line and column of a byte offset. -/
def lineCol (source : String) (offset : Nat) : LineCol :=
  placeAfter ((bytes source).take offset)

end Source

end JavaSyntax
