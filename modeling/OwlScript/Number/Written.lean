import OwlScript.Number.Binary64
import OwlScript.Number.Shortest

namespace OwlScript.Number

/-!
# Written floating-point numbers

There are two written forms.  As the output of a program a number is always
positional, and an integral one is written out exactly.  As a literal in an
outline it has the fewest digits that read back, and an exponent where the
positional form would be long.
-/

/-- Decimal digits and the number of them that stand before the point. -/
structure Digits where
  digits : List Char
  point : Int
  deriving Repr, DecidableEq

namespace Digits

/-- The digits of a decimal without the zeros at its end. -/
def ofDecimal (decimal : Decimal) : Digits :=
  let all := (Nat.repr decimal.coefficient).toList
  ⟨(all.reverse.dropWhile (· == '0')).reverse,
    all.length + decimal.exponent⟩

/-- Zeros in the given number. -/
def zeros (count : Int) : List Char :=
  List.replicate count.toNat '0'

/-- The part before the point, which has at least one digit. -/
def whole (number : Digits) : List Char :=
  if number.point ≤ 0 then
    ['0']
  else
    number.digits.take number.point.toNat ++
      zeros (number.point - number.digits.length)

/-- The part behind the point, which has at least one digit. -/
def fraction (number : Digits) : List Char :=
  let rest :=
    zeros (-number.point) ++ number.digits.drop number.point.toNat
  if rest.isEmpty then ['0'] else rest

/-- The form without an exponent. -/
def positional (number : Digits) : String :=
  String.ofList (number.whole ++ ['.'] ++ number.fraction)

/--
The form with one digit before the point, and no point after a lone digit.
-/
def scientific (number : Digits) : String :=
  let lead := number.digits.take 1
  let rest := number.digits.drop 1
  let tail := if rest.isEmpty then [] else '.' :: rest
  String.ofList (lead ++ tail) ++ "e" ++ toString (number.point - 1)

end Digits

/-- A minus sign for a negative number. -/
def signText (negative : Bool) : String :=
  if negative then "-" else ""

/-- The digits of a shortest decimal that rounds to the positive double. -/
def shortestDigits (mantissa : Nat) (exponent : Int) : Digits :=
  Digits.ofDecimal (shortestDecimal mantissa exponent)

/-- The least point of a literal in positional form: three zeros behind it. -/
def leastPositionalPoint : Int :=
  -3

/--
The greatest point of a literal in positional form: sixteen digits before it.
-/
def greatestPositionalPoint : Int :=
  16

/--
The number as a program prints it: exact and with one zero behind the point if
integral, otherwise the shortest digits without an exponent.
-/
def outputText (number : Float) : String :=
  match Binary64.ofFloat number with
  | .notANumber => "NaN"
  | .infinite negative => signText negative ++ "inf"
  | .finite negative mantissa exponent =>
      signText negative ++
        match Binary64.integer? mantissa exponent with
        | some integer => Nat.repr integer ++ ".0"
        | none => (shortestDigits mantissa exponent).positional

/--
The number as a literal of an outline: the shortest digits, positional from
one ten-thousandth up to sixteen digits before the point.
-/
def literalText (number : Float) : String :=
  match Binary64.ofFloat number with
  | .notANumber => "NaN"
  | .infinite negative => signText negative ++ "inf"
  | .finite negative mantissa exponent =>
      signText negative ++
        if mantissa = 0 then
          "0.0"
        else
          let number := shortestDigits mantissa exponent
          if leastPositionalPoint ≤ number.point ∧
              number.point ≤ greatestPositionalPoint then
            number.positional
          else
            number.scientific

end OwlScript.Number
