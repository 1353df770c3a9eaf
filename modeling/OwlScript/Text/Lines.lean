import OwlScript.Text.Pieces

namespace OwlScript.Text

/-!
# Lines of a text

A line ends at a line feed.  One carriage return directly before that line
feed belongs to the ending; a carriage return anywhere else is part of the
line.  A text that ends with a line feed has no further, empty line.
-/

/-- The piece without its line ending, read from its last character on. -/
def withoutEnding (piece : List Char) : List Char :=
  match piece.reverse with
  | '\n' :: '\r' :: rest => rest.reverse
  | '\n' :: rest => rest.reverse
  | _ => piece

/-- The lines of a text without their endings. -/
def lines (text : String) : List (List Char) :=
  (cutAfter (· == '\n') text.toList).map withoutEnding

end OwlScript.Text
