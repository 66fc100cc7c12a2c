import JavaSyntax.Kind

/-!
# Operators — how operations are spelled

Each operation has one spelling. Within one family a spelling belongs to one operation, apart from
`++` and `--`, where the side on which the operator stands decides.
-/

namespace JavaSyntax

namespace UnaryOperation

/-- Operations written before their operand. -/
def prefixed : List UnaryOperation :=
  [prefixIncrement, prefixDecrement, plus, minus, bitwiseComplement, logicalComplement]

/-- Operations written after their operand. -/
def postfixed : List UnaryOperation :=
  [postfixIncrement, postfixDecrement]

def text : UnaryOperation → String
  | postfixIncrement | prefixIncrement => "++"
  | postfixDecrement | prefixDecrement => "--"
  | plus => "+"
  | minus => "-"
  | bitwiseComplement => "~"
  | logicalComplement => "!"

/-- The operation of that spelling, before or after its operand. -/
def ofText? (text : String) (beforeOperand : Bool) : Option UnaryOperation :=
  (if beforeOperand then prefixed else postfixed).find? fun operation => operation.text == text

end UnaryOperation

namespace BinaryOperation

def all : List BinaryOperation :=
  [multiply, divide, remainder, plus, minus, leftShift, rightShift, unsignedRightShift, less,
   greater, lessOrEqual, greaterOrEqual, equal, notEqual, and, xor, or, conditionalAnd,
   conditionalOr]

def text : BinaryOperation → String
  | multiply => "*"
  | divide => "/"
  | remainder => "%"
  | plus => "+"
  | minus => "-"
  | leftShift => "<<"
  | rightShift => ">>"
  | unsignedRightShift => ">>>"
  | less => "<"
  | greater => ">"
  | lessOrEqual => "<="
  | greaterOrEqual => ">="
  | equal => "=="
  | notEqual => "!="
  | and => "&"
  | xor => "^"
  | or => "|"
  | conditionalAnd => "&&"
  | conditionalOr => "||"

/-- The operation of that spelling. -/
def ofText? (text : String) : Option BinaryOperation :=
  all.find? fun operation => operation.text == text

end BinaryOperation

namespace AssignmentOperation

def all : List AssignmentOperation :=
  [simple, multiply, divide, remainder, plus, minus, leftShift, rightShift, unsignedRightShift,
   and, xor, or]

def text : AssignmentOperation → String
  | simple => "="
  | multiply => "*="
  | divide => "/="
  | remainder => "%="
  | plus => "+="
  | minus => "-="
  | leftShift => "<<="
  | rightShift => ">>="
  | unsignedRightShift => ">>>="
  | and => "&="
  | xor => "^="
  | or => "|="

/-- The operation of that spelling. -/
def ofText? (text : String) : Option AssignmentOperation :=
  all.find? fun operation => operation.text == text

end AssignmentOperation

/-- The spelling of the operator of a unary, binary or assignment kind. -/
def Kind.operatorText? : Kind → Option String
  | .unary operation => some operation.text
  | .binary operation => some operation.text
  | .assignment operation => some operation.text
  | _ => none

end JavaSyntax
