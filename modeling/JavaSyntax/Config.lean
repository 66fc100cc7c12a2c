/-!
# Configuration of a build
-/

namespace JavaSyntax

/-- How deep constructs may nest, and whether a damaged source is refused outright. -/
structure BuildConfig where
  maxDepth : Nat := 512
  rejectSyntaxErrors : Bool := true
  deriving DecidableEq, Repr, Inhabited

end JavaSyntax
