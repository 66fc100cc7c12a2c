/-!
# Excerpts — a short piece of a text for a message

An excerpt is the first line of a text without the blanks at its end, and if that is longer than
`Excerpt.limit` characters, its beginning followed by three points.
-/

namespace JavaSyntax

/-- Whether a character has the Unicode property `White_Space`. -/
def isWhiteSpace (c : Char) : Bool :=
  let n := c.toNat
  (9 ≤ n && n ≤ 13) || n == 0x20 || n == 0x85 || n == 0xA0 || n == 0x1680 ||
    (0x2000 ≤ n && n ≤ 0x200A) || n == 0x2028 || n == 0x2029 || n == 0x202F || n == 0x205F ||
    n == 0x3000

/-- A text without the white space at its end. -/
def trimEnd (cs : List Char) : List Char := (cs.reverse.dropWhile isWhiteSpace).reverse

/-- A text up to its first line feed. One carriage return right before the line feed belongs to the
line's end. -/
def firstLine (cs : List Char) : List Char :=
  let line := cs.takeWhile (· != '\n')
  if line.length < cs.length && line.getLast? == some '\r' then line.dropLast else line

namespace Excerpt

/-- The most characters that an excerpt has. -/
def limit : Nat := 40

def ellipsis : List Char := ['.', '.', '.']

/-- A line of any length in at most `limit` characters. -/
def shorten (line : List Char) : List Char :=
  if line.length ≤ limit then line else line.take (limit - ellipsis.length) ++ ellipsis

end Excerpt

/-- The excerpt of a text. -/
def excerpt (text : String) : String :=
  String.ofList (Excerpt.shorten (trimEnd (firstLine text.toList)))

end JavaSyntax
