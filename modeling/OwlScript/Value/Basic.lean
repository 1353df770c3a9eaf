import OwlScript.Number.Written
import OwlScript.Text.Quoted

namespace OwlScript

/-!
# Values

A value is what an expression stands for.  A literal of a script is a value as
well.  There are two written forms: the one a program prints, and the one that
outlines show for literals.
-/

/-- A value of the language. -/
inductive Value where
  | nil
  | bool (truth : Bool)
  | int (number : Int64)
  | float (number : Float)
  | string (text : String)
  deriving DecidableEq

/-- The types that values belong to. -/
inductive ValueType where
  | nil
  | bool
  | int
  | float
  | string
  deriving Repr, DecidableEq

namespace ValueType

/-- The name in messages. -/
def name : ValueType → String
  | .nil => "Nil"
  | .bool => "Bool"
  | .int => "Int"
  | .float => "Float"
  | .string => "String"

end ValueType

namespace Value

/-- The type that the value belongs to. -/
def type : Value → ValueType
  | .nil => .nil
  | .bool _ => .bool
  | .int _ => .int
  | .float _ => .float
  | .string _ => .string

/-- The name of a truth value. -/
def truthText (truth : Bool) : String :=
  if truth then "true" else "false"

/-- The value as a program prints it. -/
def text : Value → String
  | .nil => "nil"
  | .bool truth => truthText truth
  | .int number => toString number.toInt
  | .float number => Number.outputText number
  | .string text => text

/-- The value as an outline shows it. -/
def literalText : Value → String
  | .nil => "Nil"
  | .bool truth => "Bool(" ++ truthText truth ++ ")"
  | .int number => "Int(" ++ toString number.toInt ++ ")"
  | .float number => "Float(" ++ Number.literalText number ++ ")"
  | .string text => "String " ++ Text.quoted text

/--
Whether the value counts as true in a condition.  Only nil, false, the zeros
and the empty string do not.
-/
def isTruthy : Value → Bool
  | .nil => false
  | .bool truth => truth
  | .int number => number != 0
  | .float number => !(number == Float.ofBits 0)
  | .string text => !text.isEmpty

/-- The double nearest to an integer, with ties to even. -/
def floatOfInt (number : Int64) : Float :=
  let magnitude := number.toInt.natAbs.toUInt64.toFloat
  if number < 0 then -magnitude else magnitude

/-- The value as a floating-point number, if it is a number. -/
def toFloat? : Value → Option Float
  | .int number => some (floatOfInt number)
  | .float number => some number
  | _ => none

end Value

end OwlScript
