import JavaSyntax.Config
import JavaSyntax.Kind
import JavaSyntax.Modifier
import JavaSyntax.Serial.Value
import JavaSyntax.Text.Span

/-!
# Coded types — what is written as a value and read from one

A record is written as an object with one entry for each field. It is read from such an object,
whatever other entries it has, or from a list of exactly its fields. An alternative is written as
its name.
-/

namespace JavaSyntax

/-- A type whose members are written as values, with the values that are read as members. -/
class Coded (α : Type) where
  encode : α → Value
  decode? : Value → Option α

export Coded (encode decode?)

/-- Reads a field that has to be there. -/
def required {α : Type} [Coded α] (field : Option Value) : Option α := field.bind decode?

instance : Coded String where
  encode := .string
  decode? := Value.string?

/-- A coordinate of a place or span. -/
abbrev Coordinate := Nat

instance : Coded Coordinate where
  encode n := .integer n
  decode? := Value.natural? coordinateLimit

instance : Coded LineCol where
  encode p := .object [("line", encode p.line), ("column", encode p.column)]
  decode? v :=
    match v.fields? ["line", "column"] with
    | some [line, column] => return ⟨← required line, ← required column⟩
    | _ => none

instance : Coded Span where
  encode s := .object
    [("start_byte", encode s.startByte), ("end_byte", encode s.stopByte),
     ("start", encode s.start), ("end", encode s.stop)]
  decode? v :=
    match v.fields? ["start_byte", "end_byte", "start", "end"] with
    | some [startByte, stopByte, start, stop] =>
      return ⟨← required startByte, ← required stopByte, ← required start, ← required stop⟩
    | _ => none

instance : Coded SyntaxToken where
  encode t := .object [("text", encode t.text), ("span", encode t.span)]
  decode? v :=
    match v.fields? ["text", "span"] with
    | some [text, span] => return ⟨← required text, ← required span⟩
    | _ => none

instance : Coded Kind where
  encode kind := .string kind.name
  decode? v := v.alternative?.bind Kind.ofName?

instance : Coded Category where
  encode category := .string category.name
  decode? v := v.alternative?.bind Category.ofName?

instance : Coded Modifier where
  encode modifier := .string modifier.name
  decode? v := v.alternative?.bind Modifier.ofName?

/-- The largest depth limit that is read. -/
def depthLimit : Nat := 18446744073709551615

namespace BuildConfig

def fieldNames : List String := ["max_depth", "reject_syntax_errors"]

/-- A field that is read if it is given, and has its default if not. -/
def given {α : Type} (read : Value → Option α) (default : α) : Option Value → Option α
  | none => some default
  | some v => read v

end BuildConfig

/-- A configuration is also read from fewer fields, the others having their defaults, but not from
an object with other entries. -/
instance : Coded BuildConfig where
  encode config := .object
    [("max_depth", .integer config.maxDepth),
     ("reject_syntax_errors", .bool config.rejectSyntaxErrors)]
  decode? v :=
    let usual : BuildConfig := {}
    if !v.hasOnly BuildConfig.fieldNames then none
    else
      match v.fields? BuildConfig.fieldNames with
      | some [depth, reject] =>
        return ⟨← BuildConfig.given (Value.natural? depthLimit) usual.maxDepth depth,
          ← BuildConfig.given Value.bool? usual.rejectSyntaxErrors reject⟩
      | _ => none

end JavaSyntax
