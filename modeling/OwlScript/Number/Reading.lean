import OwlScript.Number.Binary64

namespace OwlScript.Number

/-!
# Reading numbers

The written forms of integers and floating-point numbers that a literal may
have.  Reading either accounts for every character or fails.
-/

/-- The value of a run of decimal digits, given the value of those before it. -/
def digitsValueFrom : Nat → List Char → Nat
  | value, [] => value
  | value, digit :: rest =>
      digitsValueFrom (10 * value + (digit.toNat - '0'.toNat)) rest

/-- The value of a run of decimal digits. -/
def digitsValue (digits : List Char) : Nat :=
  digitsValueFrom 0 digits

/-- Whether the characters are decimal digits, and at least one. -/
def isDigits (characters : List Char) : Bool :=
  !characters.isEmpty && characters.all Char.isDigit

/-- A leading sign, and whether it is a minus, taken off the characters. -/
def takeSign : List Char → Bool × List Char
  | '-' :: rest => (true, rest)
  | '+' :: rest => (false, rest)
  | characters => (false, characters)

/-- The integer of the given sign and magnitude. -/
def signed (negative : Bool) (magnitude : Nat) : Int :=
  if negative then -(magnitude : Int) else magnitude

/-- Whether a 64-bit signed integer can hold the value. -/
def fitsInt64 (value : Int) : Bool :=
  Int64.minValue.toInt ≤ value && value ≤ Int64.maxValue.toInt

/-- The 64-bit signed integer of the value, unless that is out of range. -/
def checkedInt64 (value : Int) : Option Int64 :=
  if fitsInt64 value then
    some (Int64.ofInt value)
  else
    none

/-- Reads an integer: an optional sign and decimal digits, within 64 bits. -/
def readInteger (text : String) : Option Int64 :=
  let (negative, digits) := takeSign text.toList
  if isDigits digits then
    checkedInt64 (signed negative (digitsValue digits))
  else
    none

/--
A decimal numeral: its digits on both sides of the point, and an exponent.
-/
structure Numeral where
  whole : List Char
  fraction : List Char
  exponent : Int
  deriving Repr, DecidableEq

namespace Numeral

/-- Reads what follows the digits: nothing, or `e` and an integer. -/
def exponent? : List Char → Option Int
  | [] => some 0
  | mark :: rest =>
      let (negative, digits) := takeSign rest
      if (mark == 'e' || mark == 'E') && isDigits digits then
        some (signed negative (digitsValue digits))
      else
        none

/-- Reads digits with an optional point among them, and an optional exponent. -/
def ofCharacters? (characters : List Char) : Option Numeral :=
  let whole := characters.takeWhile Char.isDigit
  let rest := characters.dropWhile Char.isDigit
  let (fraction, tail) :=
    match rest with
    | '.' :: behind =>
        (behind.takeWhile Char.isDigit, behind.dropWhile Char.isDigit)
    | _ => ([], rest)
  if whole.isEmpty && fraction.isEmpty then
    none
  else
    (exponent? tail).map fun exponent => ⟨whole, fraction, exponent⟩

/-- All digits from the first that is not zero on. -/
def significant (numeral : Numeral) : List Char :=
  (numeral.whole ++ numeral.fraction).dropWhile (· == '0')

/-- The power of ten that the last digit counts. -/
def scale (numeral : Numeral) : Int :=
  numeral.exponent - numeral.fraction.length

/--
The double nearest to the numeral, with ties to even.  A numeral of more than
310 digits before the point is beyond every double.
-/
def toFloat (numeral : Numeral) : Float :=
  if numeral.significant.isEmpty then
    Float.ofBits 0
  else if 310 < numeral.significant.length + numeral.scale then
    (Binary64.infinite false).toFloat
  else
    Float.ofScientific (digitsValue numeral.significant)
      (numeral.scale < 0) numeral.scale.natAbs

end Numeral

/-- Reads a name of a number that has no digits, in any mixture of cases. -/
def readSpecial (characters : List Char) : Option Float :=
  let lower := characters.map Char.toLower
  if lower = ['i', 'n', 'f'] ∨
      lower = ['i', 'n', 'f', 'i', 'n', 'i', 't', 'y'] then
    some (Binary64.infinite false).toFloat
  else if lower = ['n', 'a', 'n'] then
    some Binary64.notANumber.toFloat
  else
    none

/-- Reads a floating-point number: an optional sign and a numeral or a name. -/
def readFloat (text : String) : Option Float :=
  let (negative, rest) := takeSign text.toList
  let magnitude :=
    match Numeral.ofCharacters? rest with
    | some numeral => some numeral.toFloat
    | none => readSpecial rest
  magnitude.map fun number => if negative then -number else number

end OwlScript.Number
