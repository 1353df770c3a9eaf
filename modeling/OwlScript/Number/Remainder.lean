import OwlScript.Number.Binary64

namespace OwlScript.Number

/-!
# Remainder of a floating-point division

The remainder of a division whose quotient is cut toward zero.  It is computed
exactly: both operands are multiples of one power of two, and the remainder of
the multiples is a multiple of it that a double can hold.
-/

/--
The remainder of two finite magnitudes, with the lesser exponent as the
exponent of the result.
-/
def finiteRemainder
    (negative : Bool)
    (dividend : Nat)
    (dividendExponent : Int)
    (divisor : Nat)
    (divisorExponent : Int) :
    Binary64 :=
  let exponent := min dividendExponent divisorExponent
  let left := dividend * twoTo (dividendExponent - exponent).toNat
  let right := divisor * twoTo (divisorExponent - exponent).toNat
  .finite negative (left % right) exponent

/--
The remainder with the sign of the dividend.  An infinite dividend or a zero
divisor has none, and an infinite divisor leaves the dividend as it is.
-/
def remainder (dividend divisor : Float) : Float :=
  match Binary64.ofFloat dividend, Binary64.ofFloat divisor with
  | .finite negative mantissa exponent, .finite _ other otherExponent =>
      if other = 0 then
        Binary64.notANumber.toFloat
      else
        (finiteRemainder negative mantissa exponent other
          otherExponent).toFloat
  | .finite .., .infinite _ => dividend
  | _, _ => Binary64.notANumber.toFloat

end OwlScript.Number
