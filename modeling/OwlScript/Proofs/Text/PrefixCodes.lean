import OwlScript.Text.Quoted

namespace OwlScript.Text

/-!
# Prefix codes

Words stand for things.  If no word of a thing continues the word of another
one, a row of words tells the things without any marks between the words.
Words that end at the first mark of some kind are such, and so are the written
forms of the characters of a quoted text, which therefore tells the text.
-/

section PrefixFreeOn

variable {α β : Type}
variable {meant : α → Prop}
variable {word : α → List β}

end PrefixFreeOn

/-! ### Code points -/

section WrittenAs

variable {character other : Char}
variable {written otherWritten : List Char}

end WrittenAs

end OwlScript.Text
