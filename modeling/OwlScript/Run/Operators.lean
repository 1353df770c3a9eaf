import OwlScript.Number.Reading
import OwlScript.Number.Remainder
import OwlScript.Run.Fault
import OwlScript.Value.Stored

namespace OwlScript

/-!
# Operators

Integers are computed exactly and refused where 64 bits do not hold the
result; division cuts toward zero, and a remainder is refused where its
quotient is.  Two numbers of which one is a floating-point number are computed
as such.  Strings can be joined and ordered, the order being that of their
code points.
-/

namespace Value

/-- The result as an integer value, unless it is out of range. -/
def checkedInt (result : Int) : Except RuntimeFault Value :=
  match Number.checkedInt64 result with
  | some number => .ok (.int number)
  | none => .error .integerOverflow

/-- The operators that compute, on two integers. -/
def integerArithmetic
    (operator : ArithmeticOperator)
    (left right : Int) :
    Except RuntimeFault Value :=
  match operator with
  | .add => checkedInt (left + right)
  | .subtract => checkedInt (left - right)
  | .multiply => checkedInt (left * right)
  | .divide =>
      if right = 0 then
        .error .divisionByZero
      else
        checkedInt (left.tdiv right)
  | .remainder =>
      if right = 0 then
        .error .divisionByZero
      else do
        let _ ← checkedInt (left.tdiv right)
        checkedInt (left.tmod right)

/-- The operators that compute, on two floating-point numbers. -/
def floatArithmetic
    (operator : ArithmeticOperator)
    (left right : Float) :
    Float :=
  match operator with
  | .add => left + right
  | .subtract => left - right
  | .multiply => left * right
  | .divide => left / right
  | .remainder => Number.remainder left right

/-- An operator that computes, or the joining of two strings. -/
def arithmetic
    (operator : ArithmeticOperator)
    (left right : Value) :
    Except RuntimeFault Stored :=
  match operator, left, right with
  | .add, .string leftText, .string rightText =>
      .ok (.joined leftText rightText)
  | _, .int leftNumber, .int rightNumber =>
      (integerArithmetic operator leftNumber.toInt rightNumber.toInt).map
        Stored.exact
  | _, _, _ =>
      match left.toFloat?, right.toFloat? with
      | some leftNumber, some rightNumber =>
          .ok (.exact (.float (floatArithmetic operator leftNumber rightNumber)))
      | _, _ =>
          .error
            (.unsupportedOperands (.arithmetic operator) left.type right.type)

/-- Whether an operator holds of two things in the given order. -/
def orderHolds (operator : OrderOperator) (ordering : Ordering) : Bool :=
  match operator with
  | .less => ordering.isLT
  | .lessEqual => ordering.isLE
  | .greater => ordering.isGT
  | .greaterEqual => ordering.isGE

/-- The order of two floating-point numbers, unless one is not a number. -/
def floatOrdering? (left right : Float) : Option Ordering :=
  if left < right then some .lt
  else if left == right then some .eq
  else if right < left then some .gt
  else none

/-- An operator that compares by order. -/
def order
    (operator : OrderOperator)
    (left right : Value) :
    Except RuntimeFault Bool :=
  match left, right with
  | .string leftText, .string rightText =>
      .ok (orderHolds operator (compare leftText rightText))
  | .int leftNumber, .int rightNumber =>
      .ok (orderHolds operator
        (compare leftNumber.toInt rightNumber.toInt))
  | _, _ =>
      match left.toFloat?, right.toFloat? with
      | some leftNumber, some rightNumber =>
          .ok ((floatOrdering? leftNumber rightNumber).any
            (orderHolds operator))
      | _, _ =>
          .error (.unsupportedOperands (.order operator) left.type right.type)

/--
Whether two values are equal.  Numbers are compared as floating-point numbers,
and values of different types are equal only if both are numbers.
-/
def equals (left right : Value) : Bool :=
  match left.toFloat?, right.toFloat? with
  | some leftNumber, some rightNumber => leftNumber == rightNumber
  | _, _ => left == right

/-- The value with the opposite sign. -/
def negated : Value → Except RuntimeFault Value
  | .int number => checkedInt (-number.toInt)
  | .float number => .ok (.float (-number))
  | value => .error (.cannotNegate value.type)

end Value

end OwlScript
