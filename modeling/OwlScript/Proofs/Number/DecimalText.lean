import OwlScript.Number.Reading
import OwlScript.Proofs.Token.Spans

namespace OwlScript.Number

/-!
# Decimal texts

A run of digits is read as the natural number that it is for in decimal, with
zeros in front or without.  Digits with a point between them are always read
as a floating-point number.  What is written for an integer is a run of digits
again, behind a minus if the integer is negative.
-/

variable {characters whole fraction : List Char}
variable {text : String}

/-- A row of digits is not empty, and all of it are decimal digits. -/
theorem isDigits_iff :
    isDigits characters = true ↔
      characters ≠ [] ∧ ∀ digit ∈ characters, digit.isDigit = true := by
  simp [isDigits]

/-- The value of digits behind others is the one the standard library gives. -/
theorem digitsValueFrom_eq_ofDigitChars (value : Nat) (digits : List Char) :
    digitsValueFrom value digits = Nat.ofDigitChars 10 digits value := by
  induction digits generalizing value with
  | nil =>
      rfl
  | cons digit rest hypothesis =>
      exact (hypothesis _).trans Nat.ofDigitChars_cons.symm

/-- No digit is a sign. -/
theorem takeSign_of_isDigit
    {first : Char}
    (isDigit : first.isDigit = true)
    (rest : List Char) :
    takeSign (first :: rest) = (false, first :: rest) := by
  unfold takeSign
  split
  · next isMinus =>
      cases isMinus
      cases isDigit
  · next isPlus =>
      cases isPlus
      cases isDigit
  · rfl

/-- Digits alone are read as what they are for, if 64 bits hold that. -/
theorem readInteger_of_isDigits (areDigits : isDigits text.toList = true) :
    readInteger text =
      checkedInt64 (Nat.ofDigitChars 10 text.toList 0 : Nat) := by
  have noSign : takeSign text.toList = (false, text.toList) := by
    obtain ⟨notEmpty, digits⟩ := isDigits_iff.1 areDigits
    obtain ⟨first, rest, shape⟩ := List.exists_cons_of_ne_nil notEmpty
    rw [shape] at digits ⊢
    exact takeSign_of_isDigit (digits first List.mem_cons_self) rest
  simp only [readInteger, noSign, areDigits, ↓reduceIte, signed, digitsValue,
    digitsValueFrom_eq_ofDigitChars, Bool.false_eq_true]

/-- Digits on both sides of a point are a numeral without an exponent. -/
theorem Numeral.ofCharacters?_of_point
    (wholeDigits : isDigits whole = true)
    (fractionDigits : isDigits fraction = true) :
    ofCharacters? (whole ++ '.' :: fraction) =
      some ⟨whole, fraction, 0⟩ := by
  obtain ⟨wholeNotEmpty, wholeHolds⟩ := isDigits_iff.1 wholeDigits
  obtain ⟨-, fractionHolds⟩ := isDigits_iff.1 fractionDigits
  obtain ⟨taken, left⟩ :=
    takeWhile_dropWhile_of_stopsAt wholeHolds (stopsAt_point fraction)
  have fractionParts :
      fraction.takeWhile Char.isDigit = fraction ∧
        fraction.dropWhile Char.isDigit = [] := by
    have nothingBehind : StopsAt Char.isDigit [] := nofun
    simpa using takeWhile_dropWhile_of_stopsAt fractionHolds nothingBehind
  simp [ofCharacters?, taken, left, fractionParts, wholeNotEmpty, exponent?]

/-- So they are read as a floating-point number. -/
theorem readFloat_of_point
    (shape : text.toList = whole ++ '.' :: fraction)
    (wholeDigits : isDigits whole = true)
    (fractionDigits : isDigits fraction = true) :
    readFloat text = some (Numeral.toFloat ⟨whole, fraction, 0⟩) := by
  have noSign :
      takeSign (whole ++ '.' :: fraction) =
        (false, whole ++ '.' :: fraction) := by
    obtain ⟨notEmpty, digits⟩ := isDigits_iff.1 wholeDigits
    obtain ⟨first, rest, rfl⟩ := List.exists_cons_of_ne_nil notEmpty
    exact takeSign_of_isDigit (digits first List.mem_cons_self) _
  simp [readFloat, shape, noSign,
    Numeral.ofCharacters?_of_point wholeDigits fractionDigits]

/-- The decimal digits of a number are a row of digits. -/
theorem isDigits_toDigits (number : Nat) :
    isDigits (Nat.toDigits 10 number) = true :=
  isDigits_iff.2
    ⟨Nat.toDigits_ne_nil, fun _ =>
      Nat.isDigit_of_mem_toDigits (by decide) (Nat.le_refl 10)⟩

/-- A natural number is written as its digits. -/
theorem toList_toString_natCast (number : Nat) :
    (toString (number : Int)).toList = Nat.toDigits 10 number := by
  rw [Int.toString_eq_repr]
  exact Nat.toList_repr

/-- A negative number is written with a minus in front of the digits. -/
theorem toList_toString_of_neg
    {integer : Int}
    (negative : integer < 0) :
    (toString integer).toList = '-' :: Nat.toDigits 10 integer.natAbs := by
  obtain ⟨number, rfl⟩ := Int.eq_negSucc_of_lt_zero negative
  rw [Int.toString_eq_repr, Int.repr, String.toList_append, Nat.toList_repr]
  rfl

end OwlScript.Number
