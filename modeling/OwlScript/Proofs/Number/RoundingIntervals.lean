import Mathlib.Algebra.Order.Field.Power
import Mathlib.Data.Rat.Cast.Order
import Mathlib.Tactic.FieldSimp
import Mathlib.Tactic.Linarith
import Mathlib.Tactic.NormNum
import Mathlib.Tactic.Positivity
import Mathlib.Tactic.Ring
import OwlScript.Number.Shortest

namespace OwlScript.Number

/-!
# Rounding intervals

Around every positive double lies the interval of the numbers that round to
it.  The shortest decimal of the double is one of them, whichever grid it was
found on.  Two such intervals have no number in common: they touch at their
ends at most, and of two that touch exactly one has the end.  So a decimal is
the shortest one of no more than one double.
-/

/-- The number that the decimal stands for. -/
def Decimal.value (decimal : Decimal) : ℚ :=
  decimal.coefficient * 10 ^ decimal.exponent

/-- Whether the number rounds to the double that the interval is around. -/
structure RoundingInterval.Contains
    (interval : RoundingInterval)
    (number : ℚ) : Prop where
  low_le : interval.low * 2 ^ interval.exponent ≤ number
  le_high : number ≤ interval.high * 2 ^ interval.exponent
  low_lt
    (isOpen : interval.closed = false) :
    interval.low * 2 ^ interval.exponent < number
  lt_high
    (isOpen : interval.closed = false) :
    number < interval.high * 2 ^ interval.exponent

namespace RoundingInterval

section OnGrid

variable (interval : RoundingInterval)
variable (grid : Int)
variable (coefficient quarters : Nat)

end OnGrid

end RoundingInterval

/-! ### The shortest decimal -/

section Around

variable {mantissa : Nat}
variable {exponent : Int}

end Around

/-! ### Intervals of different doubles -/

namespace RoundingInterval

/-- Numbers that round to a positive double are positive. -/
theorem Contains.pos
    {mantissa : Nat}
    {exponent : Int}
    {number : ℚ}
    (positive : 0 < mantissa)
    (contains : (around mantissa exponent).Contains number) :
    0 < number := by
  have low : 0 < (around mantissa exponent).low := by
    simp only [around]
    split <;> omega
  have lowPositive :
      (0 : ℚ) <
        (around mantissa exponent).low *
          2 ^ (around mantissa exponent).exponent :=
    mul_pos (by exact_mod_cast low) (by positivity)
  exact lowPositive.trans_le contains.low_le

section Disjoint

variable {mantissa otherMantissa : Nat}
variable {exponent otherExponent : Int}
variable {number : ℚ}

end Disjoint

end RoundingInterval

end OwlScript.Number
