namespace OwlScript.Number

/-!
# Parts of a floating-point number

A finite double is a signed multiple `mantissa * 2 ^ exponent` of a power of
two.  Exact work on doubles takes the parts, computes with integers, and puts
the parts of the result together again.
-/

/-- A double by its parts. -/
inductive Binary64 where
  | notANumber
  | infinite (negative : Bool)
  | finite (negative : Bool) (mantissa : Nat) (exponent : Int)
  deriving Repr, DecidableEq

/-- Two to a power. -/
def twoTo (exponent : Nat) : Nat :=
  Nat.pow 2 exponent

/-- Ten to a power. -/
def tenTo (exponent : Nat) : Nat :=
  Nat.pow 10 exponent

namespace Binary64

/-- The exponent of the least positive double. -/
def leastExponent : Int :=
  -1074

/-- The least mantissa of a double with all of its 53 bits in use. -/
def fullMantissa : Nat :=
  twoTo 52

/-- The parts that a pattern of 64 bits stands for. -/
def ofBits (bits : Nat) : Binary64 :=
  let negative := bits / twoTo 63 % 2 == 1
  let field : Nat := bits / twoTo 52 % twoTo 11
  let fraction : Nat := bits % twoTo 52
  if field = 2047 then
    if fraction = 0 then .infinite negative else .notANumber
  else if field = 0 then
    .finite negative fraction leastExponent
  else
    .finite negative (fullMantissa + fraction) (leastExponent + (field - 1 : Nat))

/-- The parts of a double. -/
def ofFloat (number : Float) : Binary64 :=
  ofBits number.toBits.toNat

/--
The pattern of 64 bits for `mantissa * 2 ^ exponent`, where that is a double.
The mantissa is brought to 53 bits, or to fewer at the least exponent.
-/
def bitsOfFinite
    (negative : Bool)
    (mantissa : Nat)
    (exponent : Int) :
    Nat :=
  let target := max (exponent + mantissa.log2 - 52) leastExponent
  let aligned :=
    if exponent ≤ target then
      mantissa / twoTo (target - exponent).toNat
    else
      mantissa * twoTo (exponent - target).toNat
  let signBit := if negative then twoTo 63 else 0
  if aligned < fullMantissa then
    signBit + aligned
  else
    signBit + (target - leastExponent + 1).toNat * twoTo 52 +
      (aligned - fullMantissa)

/-- The double of the parts. -/
def toFloat : Binary64 → Float
  | .notANumber => Float.ofBits 0x7FF8000000000000
  | .infinite false => Float.ofBits 0x7FF0000000000000
  | .infinite true => Float.ofBits 0xFFF0000000000000
  | .finite negative mantissa exponent =>
      Float.ofBits (bitsOfFinite negative mantissa exponent).toUInt64

/-- The integer that `mantissa * 2 ^ exponent` is, if it is one. -/
def integer? (mantissa : Nat) (exponent : Int) : Option Nat :=
  if 0 ≤ exponent then
    some (mantissa * twoTo exponent.toNat)
  else
    let divisor := twoTo (-exponent).toNat
    if mantissa % divisor = 0 then
      some (mantissa / divisor)
    else
      none

end Binary64

end OwlScript.Number
