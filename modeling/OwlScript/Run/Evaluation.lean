import OwlScript.Run.Globals
import OwlScript.Run.Operators

namespace OwlScript

/-!
# Evaluation

Evaluating an expression reads variables and changes nothing.  Operands are
evaluated from left to right, and a fault of an operand comes before a fault
of the operator.  The second operand of `and` and `or` is evaluated only if
the first one leaves the answer open.
-/

/-- A fault of a computation, placed at an expression. -/
def Expression.placed
    (expression : Expression)
    (result : Except RuntimeFault α) :
    Except Diagnostic α :=
  result.mapError fun fault => fault.located expression.position

/-- A truth value, stored. -/
def Stored.truth (truth : Bool) : Stored :=
  .exact (.bool truth)

/-- The value of an expression, as it would be stored. -/
def Expression.evaluate
    (globals : Globals) :
    Expression → Except Diagnostic Stored
  | .literal _ value => .ok (.exact value)
  | .reference position name =>
      match globals.get? name with
      | some stored => .ok (.exact stored.value)
      | none => .error ((RuntimeFault.undefinedVariable name).located position)
  | .group _ inner => inner.evaluate globals
  | .unary _ .not operand => do
      let inner ← operand.evaluate globals
      return .truth (!inner.value.isTruthy)
  | .unary position .negate operand => do
      let inner ← operand.evaluate globals
      let value ←
        (Expression.unary position .negate operand).placed inner.value.negated
      return .exact value
  | .binary .and left right => do
      let first ← left.evaluate globals
      if first.value.isTruthy then
        let second ← right.evaluate globals
        return .truth second.value.isTruthy
      else
        return .truth false
  | .binary .or left right => do
      let first ← left.evaluate globals
      if first.value.isTruthy then
        return .truth true
      else
        let second ← right.evaluate globals
        return .truth second.value.isTruthy
  | .binary .equal left right => do
      let first ← left.evaluate globals
      let second ← right.evaluate globals
      return .truth (first.value.equals second.value)
  | .binary .notEqual left right => do
      let first ← left.evaluate globals
      let second ← right.evaluate globals
      return .truth (!first.value.equals second.value)
  | .binary (.arithmetic operator) left right => do
      let first ← left.evaluate globals
      let second ← right.evaluate globals
      left.placed (Value.arithmetic operator first.value second.value)
  | .binary (.order operator) left right => do
      let first ← left.evaluate globals
      let second ← right.evaluate globals
      let truth ← left.placed (Value.order operator first.value second.value)
      return .truth truth

end OwlScript
