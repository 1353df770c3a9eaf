import Mathlib
import OwlScript.Number.Written
import OwlScript.Proofs.Number.RoundingIntervals

namespace OwlScript.Number

/-!
# Literals of floating-point numbers

The text of a literal determines its number.  The characters of the text give
the value of a decimal, whether it is written with an exponent or without one.
That decimal rounds to the number and to no other double of its sign.
-/

/-! ### Parts of a double -/

namespace Binary64

section Fields

variable {negative otherNegative : Bool}
variable {field otherField fraction otherFraction : Nat}

end Fields

end Binary64

/-! ### What the written digits stand for -/

namespace Digits

/-- The number that the digits stand for. -/
def value (number : Digits) : ℚ :=
  Nat.ofDigitChars 10 number.digits 0 *
    10 ^ (number.point - number.digits.length)

section Written

variable {number other : Digits}
variable {character : Char}

/-- The digits with a point behind the first one, unless it is alone. -/
def pointed : List Char → List Char
  | first :: second :: rest => first :: '.' :: second :: rest
  | few => few

end Written

section LiteralForm

variable {number other : Digits}
variable {character : Char}

end LiteralForm

end Digits

/-! ### The text of a literal -/

section LiteralDigits

variable {mantissa otherMantissa : Nat}
variable {exponent otherExponent : Int}

end LiteralDigits

end OwlScript.Number
