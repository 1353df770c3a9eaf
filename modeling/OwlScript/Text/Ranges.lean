namespace OwlScript.Text

/-!
# Ranges of code points

A character property is a finite set of code points.  It is written down as
closed ranges in ascending order, so that membership is a binary search.
-/

/-- Closed ranges of code points, ascending and pairwise apart. -/
abbrev Ranges :=
  Array (Nat × Nat)

namespace Ranges

/--
Whether some range with an index in `low ≤ index < high` holds the code point.
The middle range decides in which half the search goes on.
-/
def searchBetween
    (ranges : Ranges)
    (code low high : Nat) :
    Bool :=
  if low < high then
    let middle := (low + high) / 2
    match ranges[middle]? with
    | none => false
    | some (first, last) =>
        if code < first then
          searchBetween ranges code low middle
        else if last < code then
          searchBetween ranges code (middle + 1) high
        else
          true
  else
    false
termination_by high - low

/-- Whether some range holds the character. -/
def contains (ranges : Ranges) (character : Char) : Bool :=
  searchBetween ranges character.toNat 0 ranges.size

end Ranges

end OwlScript.Text
