import JavaSyntax.Config
import JavaSyntax.Lowering.Run
import JavaSyntax.Raw.Damage

/-!
# Builds — from a parsed source to its typed tree

A build first looks at the damage that the parser marked, then lowers the raw tree. A strict build
refuses all damage; a lenient one accepts supplied tokens and refuses skipped text.
-/

namespace JavaSyntax

/-! ## Damaged sources -/

/-- The refusal of a damaged source: the number of damaged places and the first of them. -/
def ParseResult.refusal (parsed : ParseResult) : SyntaxError :=
  match parsed.errors with
  | [] => .syntaxErrors 0 1 1 "syntax error"
  | first :: rest => .syntaxErrors (rest.length + 1) first.line first.column first.message

/-- What the damage of a source says about a build. -/
def checkDamage (config : BuildConfig) (parsed : ParseResult) : Except SyntaxError Unit :=
  if !parsed.hasErrors then .ok ()
  else if config.rejectSyntaxErrors then .error parsed.refusal
  else
    match parsed.root.firstError? with
    | some error => .error error.unsupported
    | none => .ok ()

/-! ## Builds -/

/-- A build: `entry` says what the root of a source is lowered to. -/
def build {α : Type} (config : BuildConfig) (entry : String → RawNode → Lowering α)
    (parsed : ParseResult) : Except SyntaxError α := do
  checkDamage config parsed
  (entry parsed.source parsed.root).run (lower parsed.source config.maxDepth config.maxDepth)

/-- The compilation unit of a source file. -/
def buildCompilationUnit (config : BuildConfig) (parsed : ParseResult) :
    Except SyntaxError CompilationUnit :=
  build config Lowering.compilationUnit parsed

/-- The expression of a snippet that is a single expression statement. -/
def buildExpression (config : BuildConfig) (parsed : ParseResult) :
    Except SyntaxError Expression :=
  build config (fun _ => Lowering.soleExpression) parsed

/-- The statements of a snippet. -/
def buildStatements (config : BuildConfig) (parsed : ParseResult) :
    Except SyntaxError (List Statement) :=
  build config Lowering.statementList parsed

/-! ## From source text

The grammar that gives raw trees is a parameter: a function from a text to its parse result. -/

/-- The text of an expression as a statement: a semicolon is put on a line of its own, where no
comment can reach it, unless the text ends in one. -/
def asStatement (source : String) : String :=
  if (trimEnd source.toList).getLast? == some ';' then source else source ++ "\n;"

def parseCompilationUnit (parse : String → Except SyntaxError ParseResult) (source : String) :
    Except SyntaxError CompilationUnit := do
  buildCompilationUnit {} (← parse source)

def parseExpression (parse : String → Except SyntaxError ParseResult) (source : String) :
    Except SyntaxError Expression := do
  buildExpression {} (← parse (asStatement source))

def parseStatements (parse : String → Except SyntaxError ParseResult) (source : String) :
    Except SyntaxError (List Statement) := do
  buildStatements {} (← parse source)

end JavaSyntax
