import OwlScript.Text.Ranges

namespace OwlScript.Text

/-!
# Blank characters

The characters with the property White_Space, as of version 17 of the
standard.  In ASCII these are the plain space and the five controls from the
tab to the carriage return; all others are listed.
-/

/-- The blank characters beyond ASCII. -/
def blankRanges : Ranges := #[
  (0x85, 0x85), (0xa0, 0xa0), (0x1680, 0x1680), (0x2000, 0x200a),
  (0x2028, 0x2029), (0x202f, 0x202f), (0x205f, 0x205f), (0x3000, 0x3000)]

/-- Whether the character has the property White_Space. -/
def isBlank (character : Char) : Bool :=
  if character.toNat < 0x80 then
    character == ' ' ||
      (0x9 ≤ character.toNat && character.toNat ≤ 0xd)
  else
    blankRanges.contains character

/-- Every character that is white space in ASCII is blank. -/
theorem isBlank_of_isWhitespace
    {character : Char}
    (white : character.isWhitespace = true) :
    isBlank character = true := by
  simp only [Char.isWhitespace, Bool.or_eq_true, decide_eq_true_eq] at white
  rcases white with ((rfl | rfl) | rfl) | rfl <;> rfl

end OwlScript.Text
