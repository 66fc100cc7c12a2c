/-!
# Modifiers — the keywords before a declaration
-/

namespace JavaSyntax

/-- A keyword that modifies a declaration. -/
inductive Modifier where
  | publicAccess | protectedAccess | privateAccess
  | staticMember | abstractMember | finalMember
  | nativeCode | synchronizedCode | transientField | volatileField | strictFloatingPoint
  | defaultMethod | sealedType | nonSealedType
  deriving DecidableEq, Repr

namespace Modifier

/-- All modifiers in their fixed order. -/
def all : List Modifier :=
  [publicAccess, protectedAccess, privateAccess, staticMember, abstractMember, finalMember,
   nativeCode, synchronizedCode, transientField, volatileField, strictFloatingPoint,
   defaultMethod, sealedType, nonSealedType]

/-- The keyword as it is written. -/
def name : Modifier → String
  | publicAccess => "public"
  | protectedAccess => "protected"
  | privateAccess => "private"
  | staticMember => "static"
  | abstractMember => "abstract"
  | finalMember => "final"
  | nativeCode => "native"
  | synchronizedCode => "synchronized"
  | transientField => "transient"
  | volatileField => "volatile"
  | strictFloatingPoint => "strictfp"
  | defaultMethod => "default"
  | sealedType => "sealed"
  | nonSealedType => "non-sealed"

/-- The modifier of that exact keyword. -/
def ofName? (text : String) : Option Modifier :=
  all.find? fun modifier => modifier.name == text

end Modifier

end JavaSyntax
