import JavaSyntax.Tree.Error

/-!
# Errors of reading a source

Every reason for which no typed tree is given, with its wording. Lines and columns are one-based.
-/

namespace JavaSyntax

inductive SyntaxError where
  /-- The parser could not be set up. -/
  | parserInit (detail : String)
  /-- The parser gave no tree. -/
  | parse (detail : String)
  /-- The source is damaged: how many places, and the first of them. -/
  | syntaxErrors (count line column : Nat) (detail : String)
  /-- A construct that typed trees do not have. -/
  | unsupported (tag : String) (line column : Nat)
  /-- A construct that lies deeper than allowed. -/
  | nestingTooDeep (maxDepth line column : Nat)
  /-- A snippet that is something else than what was asked for. -/
  | snippetShape (expected found : String)
  /-- The parts found make no node. -/
  | tree (error : TreeError)
  deriving DecidableEq, Repr

namespace SyntaxError

def message : SyntaxError → String
  | parserInit detail => s!"failed to initialise Java parser: {detail}"
  | parse detail => s!"failed to parse Java source: {detail}"
  | syntaxErrors count line column detail =>
    s!"source has {count} syntax error(s); first at {line}:{column}: {detail}"
  | unsupported tag line column => s!"unsupported construct `{tag}` at {line}:{column}"
  | nestingTooDeep maxDepth line column =>
    s!"nesting exceeds the maximum depth of {maxDepth} at {line}:{column}"
  | snippetShape expected found => s!"expected {expected}, found {found}"
  | tree error => error.message

end SyntaxError

end JavaSyntax
