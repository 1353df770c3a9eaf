import OwlScript.Diagnostic
import OwlScript.Program.Basic

namespace OwlScript

/-!
# Faults of a run

What can go wrong while an expression is evaluated or a statement executed.
-/

/-- The faults that the interpreter can find. -/
inductive RuntimeFault where
  | undefinedVariable (name : String)
  | undefinedTarget (name : String)
  | integerOverflow
  | divisionByZero
  | cannotNegate (type : ValueType)
  | unsupportedOperands (operator : BinaryOperator) (left right : ValueType)
  deriving Repr, DecidableEq

namespace RuntimeFault

/-- The fault in words. -/
def message : RuntimeFault → String
  | .undefinedVariable name => "undefined variable `" ++ name ++ "`"
  | .undefinedTarget name =>
      "cannot assign to undefined variable `" ++ name ++ "`"
  | .integerOverflow => "integer overflow"
  | .divisionByZero => "division by zero"
  | .cannotNegate type => "cannot negate " ++ type.name
  | .unsupportedOperands operator left right =>
      "unsupported operands for " ++ operator.name ++ ": " ++ left.name ++
        " and " ++ right.name

/-- The fault at a place. -/
def located (fault : RuntimeFault) (position : Position) : Diagnostic :=
  .located .runtime fault.message position

end RuntimeFault

end OwlScript
